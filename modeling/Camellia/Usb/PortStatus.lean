import Camellia.Usb.PortNames

/-!
# Port status and the return to dual role

`getPortStatusHelper` sizes the list of statuses by the number of ports, fills it
port by port and gives up at the first port whose roles it cannot read.  When a
Type-C uevent arrives, `uevent_event` goes through that list and puts the ports
without a partner back to dual role; it does not look at the result, so that
entries never filled take the place of the ports that were not reached.
-/

namespace Camellia.Usb

inductive V1_0.Status where
  | success
  | error
  | invalidArgument
  | unrecognizedRole
deriving DecidableEq

/-- `other` stands for every value outside the enumeration. -/
inductive PortRoleType where
  | dataRole
  | powerRole
  | mode
  | other
deriving DecidableEq

namespace PortPowerRole

def none : ℕ := 0
def source : ℕ := 1
def sink : ℕ := 2

end PortPowerRole

namespace PortDataRole

def none : ℕ := 0
def host : ℕ := 1
def device : ℕ := 2

end PortDataRole

namespace PortMode

def none : ℕ := 0
def ufp : ℕ := 1
def dfp : ℕ := 2
def drp : ℕ := 3
def audioAccessory : ℕ := 4
def debugAccessory : ℕ := 8

end PortMode

inductive HALVersion where
  | V1_0
  | V1_1
  | V1_2
  | V1_3
deriving DecidableEq

structure PortStatus where
  portName : String
  currentDataRole : ℕ
  currentPowerRole : ℕ
  currentMode : ℕ
  canChangeMode : Bool
  canChangeDataRole : Bool
  canChangePowerRole : Bool
  supportedModes : ℕ
  supportedModes_1_1 : ℕ
  currentMode_1_1 : ℕ
deriving DecidableEq

/-- An element of the list as `resize` leaves it. -/
def PortStatus.unfilled : PortStatus where
  portName := ""
  currentDataRole := PortDataRole.none
  currentPowerRole := PortPowerRole.none
  currentMode := PortMode.none
  canChangeMode := false
  canChangeDataRole := false
  canChangePowerRole := false
  supportedModes := PortMode.none
  supportedModes_1_1 := PortMode.none
  currentMode_1_1 := PortMode.none

/-! ## Reading roles -/

/-- The text of each file that can be opened. -/
abbrev Files := String → Option String

/-- The first line of a file; `contents` stays as it is when there is none. -/
def readFile (files : Files) (filename contents : String) : Option String :=
  (files filename).map fun text =>
    if text = "" then contents
    else .ofList (text.toList.takeWhile fun c => c ≠ '\n' ∧ c ≠ Char.ofNat 0)

/-- The text between the brackets.  When they come in the wrong order the length that is
computed wraps, and everything after the first bracket is taken. -/
def extractRole (roleName : String) : String :=
  let first := roleName.toList.idxOf '['
  let last := roleName.toList.idxOf ']'
  if first < roleName.toList.length ∧ last < roleName.toList.length then
    let rest := roleName.toList.drop (first + 1)
    .ofList (if first < last then rest.take (last - first - 1) else rest)
  else roleName

def getAccessoryConnected (files : Files) (portName : String) : Option String :=
  readFile files ("/sys/class/typec/" ++ portName ++ "-partner/accessory_mode") ""

def roleFile (portName : String) : PortRoleType → Option String
  | .powerRole => some ("/sys/class/typec/" ++ portName ++ "/power_role")
  | .dataRole => some ("/sys/class/typec/" ++ portName ++ "/data_role")
  | .mode => some ("/sys/class/typec/" ++ portName ++ "/data_role")
  | .other => none

def roleOfName (type : PortRoleType) (roleName : String) : Except V1_0.Status ℕ :=
  if roleName = "source" then .ok PortPowerRole.source
  else if roleName = "sink" then .ok PortPowerRole.sink
  else if roleName = "host" then
    .ok (if type = .dataRole then PortDataRole.host else PortMode.dfp)
  else if roleName = "device" then
    .ok (if type = .dataRole then PortDataRole.device else PortMode.ufp)
  else if roleName ≠ "none" then .error .unrecognizedRole
  else .ok 0

/-- The role that an attached accessory implies, `none` if its file cannot be opened. -/
def accessoryRole (files : Files) (portName : String) : Option (Option ℕ) :=
  (getAccessoryConnected files portName).map fun accessory =>
    if accessory = "analog_audio" then some PortMode.audioAccessory
    else if accessory = "debug" then some PortMode.debugAccessory
    else none

def readRole (files : Files) (filename : String) (type : PortRoleType) : Except V1_0.Status ℕ :=
  match readFile files filename "" with
  | none => .error .error
  | some roleName => roleOfName type (extractRole roleName)

def getCurrentRoleHelper (files : Files) (portName : String) (connected : Bool)
    (type : PortRoleType) : Except V1_0.Status ℕ :=
  match roleFile portName type with
  | none => .error .error
  | some filename =>
      if !connected then .ok 0
      else if type = .mode then
        match accessoryRole files portName with
        | none => .error .error
        | some (some role) => .ok role
        | some none => readRole files filename type
      else readRole files filename type

def canSwitchRoleHelper (files : Files) (portName : String) : Bool :=
  readFile files
    ("/sys/class/typec/" ++ portName ++ "-partner/supports_usb_power_delivery") "" = some "yes"

/-! ## Filling the list -/

/-- Body of the loop of `getPortStatusHelper`, for a port with the flag of its partner, and
whether it reaches the end.  `nodes` gives the files at the time each type is read. -/
def fillPort (nodes : PortRoleType → Files) (version : HALVersion) (port : String × Bool) :
    PortStatus × Bool :=
  let entry := { PortStatus.unfilled with portName := port.1 }
  match getCurrentRoleHelper (nodes .powerRole) port.1 port.2 .powerRole with
  | .error _ => (entry, false)
  | .ok currentRole =>
      let entry := { entry with currentPowerRole := currentRole }
      match getCurrentRoleHelper (nodes .dataRole) port.1 port.2 .dataRole with
      | .error _ => (entry, false)
      | .ok currentRole =>
          let entry := { entry with
            currentDataRole :=
              if port.2 ∧ currentRole = PortDataRole.none then PortDataRole.device
              else currentRole }
          match getCurrentRoleHelper (nodes .mode) port.1 port.2 .mode with
          | .error _ => (entry, false)
          | .ok currentRole =>
              let currentMode :=
                if port.2 ∧ currentRole = PortMode.none then PortMode.ufp else currentRole
              ({ entry with
                  currentMode_1_1 := currentMode
                  currentMode := if version = .V1_0 then currentMode else PortMode.none
                  canChangeMode := true
                  canChangeDataRole :=
                    port.2 && canSwitchRoleHelper (nodes .dataRole) port.1
                  canChangePowerRole :=
                    port.2 && canSwitchRoleHelper (nodes .powerRole) port.1
                  supportedModes := if version = .V1_0 then PortMode.drp else PortMode.none
                  supportedModes_1_1 :=
                    if version = .V1_0 then PortMode.none else PortMode.drp },
                true)

def fillPorts (nodes : PortRoleType → Files) (version : HALVersion) :
    List (String × Bool) → List PortStatus × V1_0.Status
  | [] => ([], .success)
  | port :: rest =>
      match fillPort nodes version port with
      | (entry, true) =>
          let (entries, status) := fillPorts nodes version rest
          (entry :: entries, status)
      | (entry, false) => (entry :: rest.map fun _ => PortStatus.unfilled, .error)

/-- `names` is the map of ports in the order in which it is iterated over. -/
def getPortStatusHelper (names : Option (List (String × Bool))) (nodes : PortRoleType → Files)
    (version : HALVersion) : List PortStatus × V1_0.Status :=
  match names with
  | some ports => fillPorts nodes version ports
  | none => ([], .error)

/-- The list left behind and, when a callback is registered, what it is told. -/
def queryVersionHelper (mCallback : Option HALVersion) (names : Option (List (String × Bool)))
    (nodes : PortRoleType → Files) : List PortStatus × Option (List PortStatus × V1_0.Status) :=
  match mCallback with
  | some version =>
      let (currentPortStatus, status) := getPortStatusHelper names nodes version
      (currentPortStatus, some (currentPortStatus, status))
  | none => ([], none)

/-! ## Back to dual role -/

def hasPartner (opendir : String → Bool) (portName : String) : Bool :=
  opendir ("/sys/class/typec/" ++ portName ++ "-partner")

/-- The ports that `uevent_event` calls `switchToDrp` for on a `DEVTYPE=typec_` field, in
order; `locked` tells whether it gets `mRoleSwitchLock`. -/
def restoreDrp (mCallback : Option HALVersion) (names : Option (List (String × Bool)))
    (nodes : PortRoleType → Files) (opendir : String → Bool) (locked : Bool) : List String :=
  let (currentPortStatus, _) := queryVersionHelper mCallback names nodes
  if locked then
    (currentPortStatus.map PortStatus.portName).filter fun portName =>
      !hasPartner opendir portName
  else []

def readsRoles (nodes : PortRoleType → Files) (port : String × Bool) : Bool :=
  [PortRoleType.powerRole, .dataRole, .mode].all fun type =>
    (getCurrentRoleHelper (nodes type) port.1 port.2 type).isOk

theorem fillPort_spec (nodes : PortRoleType → Files) (version : HALVersion)
    (port : String × Bool) :
    (fillPort nodes version port).1.portName = port.1 ∧
      (fillPort nodes version port).2 = readsRoles nodes port := by
  simp only [fillPort, readsRoles, List.all_cons, List.all_nil, Bool.and_true]
  cases getCurrentRoleHelper (nodes .powerRole) port.1 port.2 .powerRole with
  | error status => exact ⟨rfl, rfl⟩
  | ok power =>
      cases getCurrentRoleHelper (nodes .dataRole) port.1 port.2 .dataRole with
      | error status => exact ⟨rfl, rfl⟩
      | ok data =>
          cases getCurrentRoleHelper (nodes .mode) port.1 port.2 .mode with
          | error status => exact ⟨rfl, rfl⟩
          | ok mode => exact ⟨rfl, rfl⟩

/-! ## The ports that are reached -/

variable {nodes : PortRoleType → Files} {version : HALVersion}

/-- The ports that come after the first whose roles cannot be read. -/
def unreached (nodes : PortRoleType → Files) (ports : List (String × Bool)) :
    List (String × Bool) :=
  (ports.dropWhile (readsRoles nodes)).tail

/-- The ports up to the first whose roles cannot be read, which still gets its name. -/
def reached (nodes : PortRoleType → Files) (ports : List (String × Bool)) :
    List (String × Bool) :=
  ports.takeWhile (readsRoles nodes) ++ (ports.dropWhile (readsRoles nodes)).head?.toList

theorem reached_append_unreached (nodes : PortRoleType → Files)
    (ports : List (String × Bool)) :
    reached nodes ports ++ unreached nodes ports = ports := by
  have hsplit : (ports.dropWhile (readsRoles nodes)).head?.toList ++
      (ports.dropWhile (readsRoles nodes)).tail = ports.dropWhile (readsRoles nodes) := by
    cases ports.dropWhile (readsRoles nodes) <;> rfl
  rw [reached, unreached, List.append_assoc, hsplit, List.takeWhile_append_dropWhile]

theorem reached_cons {port : String × Bool} (hreads : readsRoles nodes port = true)
    (rest : List (String × Bool)) :
    reached nodes (port :: rest) = port :: reached nodes rest := by
  simp [reached, hreads]

theorem unreached_cons {port : String × Bool} (hreads : readsRoles nodes port = true)
    (rest : List (String × Bool)) :
    unreached nodes (port :: rest) = unreached nodes rest := by
  simp [unreached, hreads]

/-- Every port that is reached has its name in the list, and every other entry none. -/
theorem fillPorts_names (nodes : PortRoleType → Files) (version : HALVersion)
    (ports : List (String × Bool)) :
    (fillPorts nodes version ports).1.map PortStatus.portName =
      (reached nodes ports).map Prod.fst ++ (unreached nodes ports).map fun _ => "" := by
  induction ports with
  | nil => rfl
  | cons port rest ih =>
      obtain ⟨hname, hreads⟩ := fillPort_spec nodes version port
      rw [fillPorts]
      cases hfill : fillPort nodes version port with
      | mk entry finished =>
          rw [hfill] at hname hreads
          cases finished with
          | true =>
              rw [reached_cons hreads.symm, unreached_cons hreads.symm]
              simp only [List.map_cons, List.cons_append]
              rw [ih, hname]
          | false =>
              have hstop : readsRoles nodes port = false := hreads.symm
              have hentry : entry.portName = port.1 := hname
              simp [reached, unreached, hstop, hentry, PortStatus.unfilled]

structure Iteration where
  run : PortMap → List (String × Bool)
  perm : ∀ names, (run names).Perm names.toList

theorem Iteration.mem_iff (order : Iteration) (names : PortMap) (name : String) :
    (∃ port ∈ order.run names, port.1 = name) ↔ name ∈ names := by
  rw [← Std.TreeMap.mem_keys, ← Std.TreeMap.map_fst_toList_eq_keys, List.mem_map]
  simp only [(order.perm names).mem_iff]

theorem Iteration.mem_iff_reached (order : Iteration) (names : PortMap) (name : String) :
    name ∈ names ↔
      (∃ port ∈ reached nodes (order.run names), port.1 = name) ∨
        ∃ port ∈ unreached nodes (order.run names), port.1 = name := by
  rw [← order.mem_iff]
  conv_lhs => rw [← reached_append_unreached nodes (order.run names)]
  simp only [List.mem_append, or_and_right, exists_or]

theorem Iteration.name_ne (order : Iteration) (names : PortMap)
    {port other : String × Bool} (hport : port ∈ reached nodes (order.run names))
    (hother : other ∈ unreached nodes (order.run names)) : port.1 ≠ other.1 := by
  have hdistinct : (order.run names).Pairwise fun a b => a.1 ≠ b.1 := by
    refine ((order.perm names).pairwise_iff fun hne => hne.symm).mpr ?_
    refine (Std.TreeMap.distinct_keys_toList (t := names)).imp fun hne heq => hne ?_
    exact Std.LawfulEqCmp.compare_eq_iff_eq.mpr heq
  rw [← reached_append_unreached nodes (order.run names)] at hdistinct
  exact (List.pairwise_append.mp hdistinct).2.2 port hport other hother

theorem ne_empty_of_mem_getTypeCPortNames {dp : Option (List Dirent)} {names : PortMap}
    (hnames : getTypeCPortNamesHelper dp = some names) : "" ∉ names := by
  intro hempty
  obtain ⟨entries, _, rfl⟩ := Option.map_eq_some_iff.mp hnames
  rcases (mem_foldl_addEntry entries ∅ "").mp hempty with hnone | ⟨ep, _, _, hkey⟩
  · simp at hnone
  · exact key_ne_empty ep hkey

theorem mem_restoreDrp (ports : List (String × Bool)) (opendir : String → Bool)
    (name : String) :
    name ∈ restoreDrp (some version) (some ports) nodes opendir true ↔
      ((∃ port ∈ reached nodes ports, port.1 = name) ∨
        (unreached nodes ports ≠ [] ∧ name = "")) ∧ hasPartner opendir name = false := by
  have hlist : restoreDrp (some version) (some ports) nodes opendir true =
      ((fillPorts nodes version ports).1.map PortStatus.portName).filter fun portName =>
        !hasPartner opendir portName := rfl
  rw [hlist, fillPorts_names, List.mem_filter, List.mem_append, List.mem_map, List.mem_map,
    Bool.not_eq_true']
  refine and_congr_left fun _ => or_congr_right ?_
  constructor
  · rintro ⟨port, hport, rfl⟩
    exact ⟨List.ne_nil_of_mem hport, rfl⟩
  · rintro ⟨hne, rfl⟩
    obtain ⟨port, hport⟩ := List.exists_mem_of_ne_nil _ hne
    exact ⟨port, hport, rfl⟩

/-- On a `DEVTYPE=typec_` field with a callback and no role switch in progress, exactly the
ports without a partner are put back to dual role, if and only if no port comes after one
whose roles cannot be read, or all those that do have partners, and so has the empty name. -/
theorem drp_restored_iff (dp : Option (List Dirent)) (order : Iteration)
    (nodes : PortRoleType → Files) (opendir : String → Bool) (version : HALVersion) :
    (∀ name,
      name ∈ restoreDrp (some version) ((getTypeCPortNamesHelper dp).map order.run) nodes
          opendir true ↔
        ∃ names, getTypeCPortNamesHelper dp = some names ∧ name ∈ names ∧
          hasPartner opendir name = false) ↔
      ∀ names, getTypeCPortNamesHelper dp = some names →
        unreached nodes (order.run names) = [] ∨
          (hasPartner opendir "" = true ∧
            ∀ port ∈ unreached nodes (order.run names), hasPartner opendir port.1 = true) := by
  cases hdp : getTypeCPortNamesHelper dp with
  | none =>
      refine iff_of_true (fun name => iff_of_false ?_ ?_) (by simp)
      · exact List.not_mem_nil
      · simp
  | some names =>
      have hempty : "" ∉ names := ne_empty_of_mem_getTypeCPortNames hdp
      simp only [Option.map_some, mem_restoreDrp, Option.some.injEq, exists_eq_left',
        forall_eq']
      constructor
      · intro hexact
        by_cases hall : unreached nodes (order.run names) = []
        · exact Or.inl hall
        refine Or.inr ⟨?_, fun port hport => ?_⟩
        · by_contra hnone
          exact hempty
            ((hexact "").mp ⟨Or.inr ⟨hall, rfl⟩, Bool.eq_false_iff.mpr hnone⟩).1
        · by_contra hnone
          have hname : port.1 ∈ names :=
            (order.mem_iff_reached names port.1).mpr (Or.inr ⟨port, hport, rfl⟩)
          rcases ((hexact port.1).mpr ⟨hname, Bool.eq_false_iff.mpr hnone⟩).1 with
            ⟨other, hother, hsame⟩ | ⟨_, hunnamed⟩
          · exact order.name_ne names hother hport hsame
          · exact hempty (hunnamed ▸ hname)
      · intro hlate name
        refine and_congr_left fun hnone => ?_
        rw [order.mem_iff_reached]
        refine or_congr_right ?_
        constructor
        · rintro ⟨hne, rfl⟩
          rcases hlate with hall | ⟨hpartner, _⟩
          · contradiction
          · rw [hpartner] at hnone
            contradiction
        · rintro ⟨port, hport, rfl⟩
          rcases hlate with hall | ⟨_, hpartners⟩
          · rw [hall] at hport
            contradiction
          · rw [hpartners port hport] at hnone
            contradiction

def Iteration.sorted : Iteration where
  run := fun names => names.toList
  perm := fun _ => .refl _

/-- Two ports, of which the first has a partner and no role files; `port1`, without a
partner, is left as it is. -/
theorem drp_not_restored_after_failure :
    let dp : Option (List Dirent) := some
      [{ d_name := "port0", isLink := true, named := by decide },
        { d_name := "port0-partner", isLink := true, named := by decide },
        { d_name := "port1", isLink := true, named := by decide }]
    let opendir := fun path => decide (path = "/sys/class/typec/port0-partner")
    restoreDrp (some .V1_2) ((getTypeCPortNamesHelper dp).map Iteration.sorted.run)
        (fun _ _ => none) opendir true = [""] ∧
      "port1" ∈ (getTypeCPortNamesHelper dp).getD ∅ ∧
      hasPartner opendir "port1" = false := by
  decide

end Camellia.Usb
