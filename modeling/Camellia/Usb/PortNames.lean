import Mathlib.Tactic
import Mathlib.Data.List.TakeWhile

/-!
# The names of the Type-C ports

`/sys/class/typec` has a link for every port and, beside it, links for what is
attached: `port0-partner`, `port0-cable`, `port0-plug0`.  `getTypeCPortNamesHelper`
reads them in the order `readdir` happens to give and collects the ports, with a
flag for those that have a partner.  It tells partners from ports by a substring
and takes every other link for a port.
-/

namespace Camellia.Usb

structure Dirent where
  d_name : String
  isLink : Bool
  named : d_name ≠ ""

/-- `s.find(needle) != std::string::npos`. -/
def contains (s needle : String) : Bool := needle.toList <:+: s.toList

/-- The first token of `strtok`. -/
def strtok (s : String) (delimiter : Char) : String :=
  .ofList ((s.toList.dropWhile (· = delimiter)).takeWhile (· ≠ delimiter))

/-- The map of ports; its order of iteration is not part of it. -/
abbrev PortMap := Std.TreeMap String Bool

def addEntry (names : PortMap) (ep : Dirent) : PortMap :=
  if ep.isLink then
    if !contains ep.d_name "-partner" then names.insertIfNew ep.d_name false
    else names.insert (strtok ep.d_name '-') true
  else names

/-- `dp` is the directory, `none` if it cannot be opened. -/
def getTypeCPortNamesHelper (dp : Option (List Dirent)) : Option PortMap :=
  dp.map fun entries => entries.foldl addEntry ∅

/-! ## What the map contains -/

def Dirent.isPartner (ep : Dirent) : Bool := contains ep.d_name "-partner"

def Dirent.key (ep : Dirent) : String :=
  if ep.isPartner then strtok ep.d_name '-' else ep.d_name

theorem mem_addEntry (names : PortMap) (ep : Dirent) (key : String) :
    key ∈ addEntry names ep ↔ key ∈ names ∨ (ep.isLink = true ∧ ep.key = key) := by
  unfold addEntry Dirent.key Dirent.isPartner
  cases ep.isLink with
  | false => simp
  | true =>
      cases contains ep.d_name "-partner" with
      | false =>
          simp only [Bool.not_false, if_true, true_and, Bool.false_eq_true, if_false,
            Std.TreeMap.mem_insertIfNew, Std.LawfulEqCmp.compare_eq_iff_eq]
          exact or_comm
      | true =>
          simp only [Bool.not_true, if_true, true_and, Bool.false_eq_true, if_false,
            Std.TreeMap.mem_insert, Std.LawfulEqCmp.compare_eq_iff_eq]
          exact or_comm

theorem addEntry_eq_true (names : PortMap) (ep : Dirent) (key : String) :
    (addEntry names ep)[key]? = some true ↔
      names[key]? = some true ∨
        (ep.isLink = true ∧ ep.isPartner = true ∧ ep.key = key) := by
  unfold addEntry Dirent.key Dirent.isPartner
  cases ep.isLink with
  | false => simp
  | true =>
      cases contains ep.d_name "-partner" with
      | false =>
          simp only [Bool.not_false, if_true, Bool.false_eq_true, false_and, and_false,
            or_false, Std.TreeMap.getElem?_insertIfNew, Std.LawfulEqCmp.compare_eq_iff_eq]
          by_cases hnew : ep.d_name = key ∧ ep.d_name ∉ names
          · obtain ⟨rfl, habsent⟩ := hnew
            simp [habsent]
          · rw [if_neg hnew]
      | true =>
          simp only [Bool.not_true, if_true, true_and, Bool.false_eq_true, if_false,
            Std.TreeMap.getElem?_insert, Std.LawfulEqCmp.compare_eq_iff_eq]
          by_cases hsame : strtok ep.d_name '-' = key <;> simp [hsame]

theorem mem_foldl_addEntry (entries : List Dirent) (names : PortMap) (key : String) :
    key ∈ entries.foldl addEntry names ↔
      key ∈ names ∨ ∃ ep ∈ entries, ep.isLink = true ∧ ep.key = key := by
  induction entries generalizing names with
  | nil => simp
  | cons ep rest ih =>
      rw [List.foldl_cons, ih, mem_addEntry, or_assoc]
      simp only [List.exists_mem_cons_iff]

theorem foldl_addEntry_eq_true (entries : List Dirent) (names : PortMap) (key : String) :
    (entries.foldl addEntry names)[key]? = some true ↔
      names[key]? = some true ∨
        ∃ ep ∈ entries, ep.isLink = true ∧ ep.isPartner = true ∧ ep.key = key := by
  induction entries generalizing names with
  | nil => simp
  | cons ep rest ih =>
      rw [List.foldl_cons, ih, addEntry_eq_true, or_assoc]
      simp only [List.exists_mem_cons_iff]

/-- The tokeniser leaves something of every name that has a `-partner` in it. -/
theorem key_ne_empty (ep : Dirent) : ep.key ≠ "" := by
  unfold Dirent.key
  cases hpartner : ep.isPartner with
  | false => exact ep.named
  | true =>
      rw [if_pos rfl, strtok]
      rw [Dirent.isPartner, contains, decide_eq_true_iff] at hpartner
      have hmem : 'p' ∈ ep.d_name.toList := hpartner.subset (by decide)
      intro hempty
      have hnil := String.ofList_eq_empty_iff.mp hempty
      have hdrop : ep.d_name.toList.dropWhile (· = '-') ≠ [] := by
        intro hdropped
        have := List.dropWhile_eq_nil_iff.mp hdropped 'p' hmem
        contradiction
      have hfirst := List.head_dropWhile_not (fun c => decide (c = '-')) hdrop
      rw [← List.cons_head_tail hdrop, List.takeWhile_cons_of_pos] at hnil
      · contradiction
      · simpa using hfirst

/-! ## Names with one dash -/

/-- In a name with one dash, what follows the dash decides. -/
theorem dash_infix_iff {front rest word : List Char} (hfront : '-' ∉ front)
    (hrest : '-' ∉ rest) : '-' :: word <:+: front ++ '-' :: rest ↔ word <+: rest := by
  constructor
  · rintro ⟨before, after, heq⟩
    rw [List.append_assoc, List.cons_append] at heq
    obtain ⟨_, _, hword⟩ :=
      (List.append_cons_inj_of_notMem hfront hrest).mp heq.symm
    exact ⟨after, hword.symm⟩
  · rintro ⟨after, rfl⟩
    exact ⟨front, after, by simp⟩

theorem not_infix_of_noDash {name word : List Char} (hname : '-' ∉ name) :
    ¬ '-' :: word <:+: name :=
  fun hwithin => hname (hwithin.subset List.mem_cons_self)

theorem strtok_dash {front : List Char} (hfront : '-' ∉ front) (hne : front ≠ [])
    (rest : List Char) :
    strtok (.ofList (front ++ '-' :: rest)) '-' = .ofList front := by
  have hdrop : (front ++ '-' :: rest).dropWhile (· = '-') = front ++ '-' :: rest := by
    cases front with
    | nil => contradiction
    | cons first tail =>
        have hfirst : first ≠ '-' := fun heq => hfront (heq ▸ List.mem_cons_self)
        simp [hfirst]
  have htake : (front ++ '-' :: rest).takeWhile (· ≠ '-') = front := by
    rw [List.takeWhile_append_of_pos]
    · simp
    · intro c hc
      simpa using fun heq : c = '-' => hfront (heq ▸ hc)
  rw [strtok, String.toList_ofList, hdrop, htake]

/-! ## Listings -/

/-- The name of a port. -/
structure PortName where
  name : String
  ne_nil : name.toList ≠ []
  noDash : '-' ∉ name.toList
deriving DecidableEq

inductive Attached where
  | partner
  | cable
  | plug (number : ℕ)
deriving DecidableEq

def Attached.suffix : Attached → String
  | .partner => "partner"
  | .cable => "cable"
  | .plug number => "plug" ++ number.repr

inductive Link where
  | port (name : PortName)
  | attached (name : PortName) (what : Attached)
deriving DecidableEq

def Link.d_name : Link → String
  | .port name => name.name
  | .attached name what => name.name ++ "-" ++ what.suffix

theorem attached_toList (port : PortName) (what : Attached) :
    (Link.attached port what).d_name.toList =
      port.name.toList ++ '-' :: what.suffix.toList := by
  simp [Link.d_name, String.toList_append]

theorem Link.d_name_ne_empty (link : Link) : link.d_name ≠ "" := by
  intro hempty
  cases link with
  | port name => exact name.ne_nil (String.toList_eq_nil_iff.mpr hempty)
  | attached name what =>
      have hnil : (Link.attached name what).d_name.toList = [] :=
        String.toList_eq_nil_iff.mpr hempty
      rw [attached_toList] at hnil
      simp at hnil

def Link.dirent (link : Link) : Dirent where
  d_name := link.d_name
  isLink := true
  named := link.d_name_ne_empty

/-- The links of `/sys/class/typec` in some order; the port of everything attached is
among them. -/
structure Listing where
  links : List Link
  owned : ∀ port what, .attached port what ∈ links → .port port ∈ links

def Listing.dirents (listing : Listing) : List Dirent := listing.links.map Link.dirent

theorem suffix_noDash (what : Attached) : '-' ∉ what.suffix.toList := by
  cases what with
  | partner => decide
  | cable => decide
  | plug number =>
      rw [Attached.suffix, String.toList_append, Nat.toList_repr, List.mem_append]
      rintro (hword | hdigit)
      · exact absurd hword (by decide)
      · have := Nat.isDigit_of_mem_toDigits (by decide) (by decide) hdigit
        contradiction

theorem partner_toList : "-partner".toList = '-' :: "partner".toList := by decide

theorem isPartner_port (name : PortName) : (Link.port name).dirent.isPartner = false := by
  rw [Dirent.isPartner, contains, decide_eq_false_iff_not, partner_toList]
  exact not_infix_of_noDash name.noDash

theorem isPartner_attached (name : PortName) (what : Attached) :
    (Link.attached name what).dirent.isPartner = true ↔ what = .partner := by
  have hsuffix : (Link.attached name what).dirent.isPartner = true ↔
      "partner".toList <+: what.suffix.toList := by
    rw [Dirent.isPartner, contains, decide_eq_true_iff, partner_toList]
    change _ <:+: (Link.attached name what).d_name.toList ↔ _
    rw [attached_toList]
    exact dash_infix_iff name.noDash (suffix_noDash what)
  rw [hsuffix]
  cases what with
  | partner => exact iff_of_true List.prefix_rfl rfl
  | cable => exact iff_of_false (by decide) (by simp)
  | plug number =>
      refine iff_of_false ?_ (by simp)
      -- the second letters differ
      rintro ⟨rest, heq⟩
      simp [Attached.suffix] at heq

theorem key_port (name : PortName) : (Link.port name).dirent.key = name.name := by
  rw [Dirent.key, isPartner_port]
  rfl

theorem key_partner (name : PortName) :
    (Link.attached name .partner).dirent.key = name.name := by
  rw [Dirent.key, (isPartner_attached name .partner).mpr rfl, if_pos rfl]
  have hname : (Link.attached name .partner).dirent.d_name =
      .ofList (name.name.toList ++ '-' :: "partner".toList) := by
    rw [← String.ofList_toList (s := (Link.attached name .partner).dirent.d_name)]
    exact congrArg _ (attached_toList name .partner)
  rw [hname, strtok_dash name.noDash name.ne_nil, String.ofList_toList]

/-- A cable or a plug is entered under its own name, which is not that of a port. -/
theorem key_attached_ne {name : PortName} {what : Attached} (hother : what ≠ .partner)
    (port : PortName) : (Link.attached name what).dirent.key ≠ port.name := by
  intro hkey
  have hpartner : (Link.attached name what).dirent.isPartner = false := by
    rw [Bool.eq_false_iff]
    exact fun htrue => hother ((isPartner_attached name what).mp htrue)
  rw [Dirent.key, hpartner, if_neg Bool.false_ne_true] at hkey
  refine port.noDash ?_
  rw [← hkey]
  change '-' ∈ (Link.attached name what).d_name.toList
  rw [attached_toList]
  exact List.mem_append_right _ List.mem_cons_self

/-! ## Discovery -/

/-- The map has the ports of the listing as keys, and marks those with a partner. -/
structure Discovers (listing : Listing) (names : PortMap) : Prop where
  keys : ∀ key, key ∈ names ↔ ∃ port, .port port ∈ listing.links ∧ port.name = key
  partners : ∀ port, .port port ∈ listing.links →
    (names[port.name]? = some true ↔ .attached port .partner ∈ listing.links)

theorem PortName.eq_of_name {port other : PortName} (hname : port.name = other.name) :
    port = other := by
  cases port
  cases other
  cases hname
  rfl

theorem mem_getTypeCPortNames (listing : Listing) (key : String) :
    key ∈ listing.dirents.foldl addEntry ∅ ↔
      ∃ link ∈ listing.links, link.dirent.key = key := by
  rw [mem_foldl_addEntry]
  simp [Listing.dirents, Link.dirent]

theorem getTypeCPortNames_partner (listing : Listing) (port : PortName) :
    (listing.dirents.foldl addEntry ∅)[port.name]? = some true ↔
      .attached port .partner ∈ listing.links := by
  rw [foldl_addEntry_eq_true]
  constructor
  · rintro (hempty | ⟨ep, hep, _, hpartner, hkey⟩)
    · simp at hempty
    · obtain ⟨link, hlink, rfl⟩ := List.mem_map.mp hep
      cases link with
      | port name =>
          rw [isPartner_port] at hpartner
          contradiction
      | attached name what =>
          obtain rfl := (isPartner_attached name what).mp hpartner
          rw [key_partner] at hkey
          exact PortName.eq_of_name hkey ▸ hlink
  · intro hlink
    exact Or.inr ⟨_, List.mem_map_of_mem hlink, rfl,
      (isPartner_attached port .partner).mpr rfl, key_partner port⟩

/-- For every listing, in whatever order it is read, the ports are discovered exactly if
nothing but partners is attached to them: no cables and no plugs. -/
theorem port_discovery_iff (listing : Listing) :
    (∃ names, getTypeCPortNamesHelper (some listing.dirents) = some names ∧
        Discovers listing names) ↔
      ∀ port what, .attached port what ∈ listing.links → what = .partner := by
  constructor
  · rintro ⟨names, hnames, hdiscovers⟩ port what hlink
    rw [getTypeCPortNamesHelper, Option.map_some, Option.some.injEq] at hnames
    subst names
    by_contra hother
    have hmem : (Link.attached port what).dirent.key ∈ listing.dirents.foldl addEntry ∅ :=
      (mem_getTypeCPortNames listing _).mpr ⟨_, hlink, rfl⟩
    obtain ⟨found, _, hkey⟩ := (hdiscovers.keys _).mp hmem
    exact key_attached_ne hother found hkey.symm
  · intro hpartners
    refine ⟨_, rfl, ?_, fun port _ => getTypeCPortNames_partner listing port⟩
    intro key
    rw [mem_getTypeCPortNames]
    constructor
    · rintro ⟨link, hlink, hkey⟩
      cases link with
      | port name => exact ⟨name, hlink, (key_port name).symm.trans hkey⟩
      | attached name what =>
          obtain rfl := hpartners name what hlink
          exact ⟨name, listing.owned name .partner hlink, (key_partner name).symm.trans hkey⟩
    · rintro ⟨port, hport, rfl⟩
      exact ⟨_, hport, key_port port⟩

/-- One port with an e-marked cable. -/
def cableListing : Listing where
  links :=
    let port0 : PortName := { name := "port0", ne_nil := by decide, noDash := by decide }
    [.port port0, .attached port0 .cable]
  owned := by simp

theorem port_discovery_cable :
    (getTypeCPortNamesHelper (some cableListing.dirents)).map (fun names => names.toList) =
        some [("port0", false), ("port0-cable", false)] ∧
      ¬∃ names, getTypeCPortNamesHelper (some cableListing.dirents) = some names ∧
        Discovers cableListing names := by
  refine ⟨by decide, ?_⟩
  rintro ⟨names, hnames, hdiscovers⟩
  rw [getTypeCPortNamesHelper, Option.map_some, Option.some.injEq] at hnames
  subst names
  obtain ⟨port, _, hname⟩ := (hdiscovers.keys "port0-cable").mp (by decide)
  exact port.noDash (hname ▸ by decide)

end Camellia.Usb
