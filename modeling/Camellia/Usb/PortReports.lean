import Camellia.Usb.PortStatus

/-!
# What the status of a port says

The kernel shows each role of a port as a line of text, either alone or in brackets among
those that the port could take.  This file states what a port is like apart from any text,
how the files of `/sys/class/typec` may show it, and that the list of statuses comes out as
the ports are, except that an attached port without a role is reported as a device.
-/

namespace Camellia.Usb
namespace PortReports

/-! ## Ports apart from their files -/

inductive PowerRole where
  | none
  | source
  | sink
deriving DecidableEq

inductive DataRole where
  | none
  | host
  | device
deriving DecidableEq

inductive Accessory where
  | none
  | analogAudio
  | debug
deriving DecidableEq

structure Partner where
  powerRole : PowerRole
  dataRole : DataRole
  accessory : Accessory
  powerDelivery : Bool
deriving DecidableEq

structure Port where
  name : String
  partner : Option Partner
deriving DecidableEq

def PowerRole.reported : PowerRole → ℕ
  | .none => PortPowerRole.none
  | .source => PortPowerRole.source
  | .sink => PortPowerRole.sink

/-- Some kernels never show a role; with a partner the port is then taken for a device. -/
def DataRole.reported : DataRole → ℕ
  | .none => PortDataRole.device
  | .host => PortDataRole.host
  | .device => PortDataRole.device

def Partner.mode (partner : Partner) : ℕ :=
  match partner.accessory, partner.dataRole with
  | .analogAudio, _ => PortMode.audioAccessory
  | .debug, _ => PortMode.debugAccessory
  | .none, .host => PortMode.dfp
  | .none, _ => PortMode.ufp

/-- The status of a port for a client of the given version. -/
def Port.report (version : HALVersion) (port : Port) : PortStatus :=
  let mode := port.partner.elim PortMode.none Partner.mode
  let canSwitch := port.partner.elim false Partner.powerDelivery
  { portName := port.name
    currentDataRole := port.partner.elim PortDataRole.none fun partner => partner.dataRole.reported
    currentPowerRole :=
      port.partner.elim PortPowerRole.none fun partner => partner.powerRole.reported
    currentMode := if version = .V1_0 then mode else PortMode.none
    canChangeMode := true
    canChangeDataRole := canSwitch
    canChangePowerRole := canSwitch
    supportedModes := if version = .V1_0 then PortMode.drp else PortMode.none
    supportedModes_1_1 := if version = .V1_0 then PortMode.none else PortMode.drp
    currentMode_1_1 := mode }

/-! ## How the kernel shows them -/

def PowerRole.text : PowerRole → String
  | .none => "none"
  | .source => "source"
  | .sink => "sink"

def DataRole.text : DataRole → String
  | .none => "none"
  | .host => "host"
  | .device => "device"

def Accessory.text : Accessory → String
  | .none => "none"
  | .analogAudio => "analog_audio"
  | .debug => "debug"

/-- The characters of a line. -/
def InLine (line : List Char) : Prop :=
  ∀ c ∈ line, c ≠ '\n' ∧ c ≠ Char.ofNat 0

instance (line : List Char) : Decidable (InLine line) :=
  List.decidableBAll (fun c => c ≠ '\n' ∧ c ≠ Char.ofNat 0) line

/-- The first line of a file. -/
def FirstLine (text line : String) : Prop :=
  InLine line.toList ∧ ∃ rest, text.toList = line.toList ++ '\n' :: rest

/-- A line that shows a role: the role alone, or in brackets among others. -/
inductive ShowsRole : String → String → Prop
  | alone {text role : String} (hline : FirstLine text role) : ShowsRole text role
  | among {text role before after : String} (hbefore : '[' ∉ before.toList)
      (hbefore' : ']' ∉ before.toList)
      (hline : FirstLine text (before ++ "[" ++ role ++ "]" ++ after)) : ShowsRole text role

/-- The files show an attached port as it is.  Those of a port without a partner are not
read. -/
structure Shows (files : Files) (name : String) (partner : Partner) : Prop where
  powerRole : ∃ text, files ("/sys/class/typec/" ++ name ++ "/power_role") = some text ∧
    ShowsRole text partner.powerRole.text
  dataRole : ∃ text, files ("/sys/class/typec/" ++ name ++ "/data_role") = some text ∧
    ShowsRole text partner.dataRole.text
  accessory : ∃ text,
    files ("/sys/class/typec/" ++ name ++ "-partner/accessory_mode") = some text ∧
      FirstLine text partner.accessory.text
  powerDelivery : ∃ text,
    files ("/sys/class/typec/" ++ name ++ "-partner/supports_usb_power_delivery") = some text ∧
      FirstLine text (if partner.powerDelivery then "yes" else "no")

/-! ## Reading them back -/

theorem readFile_firstLine {files : Files} {filename text line : String}
    (hfile : files filename = some text) (hline : FirstLine text line) (contents : String) :
    readFile files filename contents = some line := by
  obtain ⟨hin, rest, htext⟩ := hline
  have hne : text ≠ "" := by
    intro hempty
    rw [hempty] at htext
    simp at htext
  have htake : text.toList.takeWhile (fun c => c ≠ '\n' ∧ c ≠ Char.ofNat 0) = line.toList := by
    rw [htext, List.takeWhile_append_of_pos]
    · simp
    · intro c hc
      simpa using hin c hc
  rw [readFile, hfile, Option.map_some, if_neg hne, htake, String.ofList_toList]

theorem extractRole_alone {role : String} (hrole : '[' ∉ role.toList) :
    extractRole role = role := by
  unfold extractRole
  have hfirst : role.toList.idxOf '[' = role.toList.length := List.idxOf_eq_length hrole
  simp [hfirst]

theorem extractRole_among {role before after : String} (hbefore : '[' ∉ before.toList)
    (hbefore' : ']' ∉ before.toList) (hrole : ']' ∉ role.toList) :
    extractRole (before ++ "[" ++ role ++ "]" ++ after) = role := by
  have hchars : (before ++ "[" ++ role ++ "]" ++ after).toList =
      before.toList ++ '[' :: (role.toList ++ ']' :: after.toList) := by
    simp [String.toList_append]
  have hfirst : (before ++ "[" ++ role ++ "]" ++ after).toList.idxOf '[' =
      before.toList.length := by
    rw [hchars, List.idxOf_append_of_notMem hbefore, List.idxOf_cons_self, Nat.add_zero]
  have hlast : (before ++ "[" ++ role ++ "]" ++ after).toList.idxOf ']' =
      before.toList.length + (1 + role.toList.length) := by
    rw [hchars, List.idxOf_append_of_notMem hbefore', List.idxOf_cons_ne _ (by decide),
      List.idxOf_append_of_notMem hrole, List.idxOf_cons_self]
    omega
  have hlength : (before ++ "[" ++ role ++ "]" ++ after).toList.length =
      before.toList.length + (role.toList.length + after.toList.length + 2) := by
    rw [hchars]
    simp
    omega
  have hdrop : (before ++ "[" ++ role ++ "]" ++ after).toList.drop (before.toList.length + 1) =
      role.toList ++ ']' :: after.toList := by
    rw [hchars, ← List.drop_drop, List.drop_left]
    rfl
  unfold extractRole
  simp only [hfirst, hlast, hlength, hdrop]
  rw [if_pos (by omega), if_pos (by omega)]
  have hcount : before.toList.length + (1 + role.toList.length) - before.toList.length - 1 =
      role.toList.length := by omega
  rw [hcount, List.take_left, String.ofList_toList]

theorem readRole_shows {files : Files} {filename text role : String}
    (hfile : files filename = some text) (hshows : ShowsRole text role)
    (hrole : '[' ∉ role.toList ∧ ']' ∉ role.toList) (type : PortRoleType) :
    readRole files filename type = roleOfName type role := by
  unfold readRole
  cases hshows with
  | alone hline =>
      rw [readFile_firstLine hfile hline]
      simp only [extractRole_alone hrole.1]
  | among hbefore hbefore' hline =>
      rw [readFile_firstLine hfile hline]
      simp only [extractRole_among hbefore hbefore' hrole.2]

theorem PowerRole.text_noBracket (role : PowerRole) :
    '[' ∉ role.text.toList ∧ ']' ∉ role.text.toList := by
  cases role <;> decide

theorem DataRole.text_noBracket (role : DataRole) :
    '[' ∉ role.text.toList ∧ ']' ∉ role.text.toList := by
  cases role <;> decide

section Port

variable {files : Files} {name : String} {partner : Partner}

theorem powerRole_eq (hshows : Shows files name partner) :
    getCurrentRoleHelper files name true .powerRole = .ok partner.powerRole.reported := by
  obtain ⟨text, hfile, hrole⟩ := hshows.powerRole
  have hread := readRole_shows hfile hrole partner.powerRole.text_noBracket .powerRole
  simp only [getCurrentRoleHelper, roleFile, hread, Bool.not_true, Bool.false_eq_true,
    reduceCtorEq, if_false]
  cases partner.powerRole <;> rfl

theorem readRole_data (hshows : Shows files name partner) (type : PortRoleType) :
    readRole files ("/sys/class/typec/" ++ name ++ "/data_role") type =
      roleOfName type partner.dataRole.text := by
  obtain ⟨text, hfile, hrole⟩ := hshows.dataRole
  exact readRole_shows hfile hrole partner.dataRole.text_noBracket type

/-- Before an attached port without a role is made a device. -/
theorem dataRole_eq (hshows : Shows files name partner) :
    getCurrentRoleHelper files name true .dataRole =
      .ok (if partner.dataRole = .none then PortDataRole.none else partner.dataRole.reported) := by
  simp only [getCurrentRoleHelper, roleFile, readRole_data hshows, Bool.not_true,
    Bool.false_eq_true, reduceCtorEq, if_false]
  cases partner.dataRole <;> rfl

theorem accessoryRole_eq (hshows : Shows files name partner) :
    accessoryRole files name = some (match partner.accessory with
      | .none => none
      | .analogAudio => some PortMode.audioAccessory
      | .debug => some PortMode.debugAccessory) := by
  obtain ⟨text, hfile, hline⟩ := hshows.accessory
  rw [accessoryRole, getAccessoryConnected, readFile_firstLine hfile hline, Option.map_some]
  cases partner.accessory <;> rfl

theorem mode_eq (hshows : Shows files name partner) :
    getCurrentRoleHelper files name true .mode =
      .ok (if partner.accessory = .none ∧ partner.dataRole = .none then PortMode.none
        else partner.mode) := by
  simp only [getCurrentRoleHelper, roleFile, accessoryRole_eq hshows, readRole_data hshows,
    Bool.not_true, Bool.false_eq_true, if_false, if_true]
  unfold Partner.mode
  cases partner.accessory <;> cases partner.dataRole <;> rfl

theorem canSwitch_eq (hshows : Shows files name partner) :
    canSwitchRoleHelper files name = partner.powerDelivery := by
  obtain ⟨text, hfile, hline⟩ := hshows.powerDelivery
  rw [canSwitchRoleHelper, readFile_firstLine hfile hline]
  cases partner.powerDelivery <;> rfl

end Port

/-! ## The list of statuses -/

/-- A role that is read as none is replaced by that of a device. -/
theorem DataRole.reported_eq (role : DataRole) :
    (if (if role = .none then PortDataRole.none else role.reported) = PortDataRole.none then
        PortDataRole.device
      else if role = .none then PortDataRole.none else role.reported) = role.reported := by
  cases role <;> rfl

theorem Partner.mode_eq (partner : Partner) :
    (if (if partner.accessory = .none ∧ partner.dataRole = .none then PortMode.none
        else partner.mode) = PortMode.none then PortMode.ufp
      else if partner.accessory = .none ∧ partner.dataRole = .none then PortMode.none
        else partner.mode) = partner.mode := by
  unfold Partner.mode
  cases partner.accessory <;> cases partner.dataRole <;> rfl

def Port.key (port : Port) : String × Bool := (port.name, port.partner.isSome)

theorem fillPort_eq {files : Files} {port : Port}
    (hshows : ∀ partner, port.partner = some partner → Shows files port.name partner)
    (version : HALVersion) :
    fillPort (fun _ => files) version port.key = (port.report version, true) := by
  obtain ⟨name, partner⟩ := port
  cases partner with
  | none =>
      simp [fillPort, Port.key, Port.report, getCurrentRoleHelper, roleFile, PortPowerRole.none,
        PortDataRole.none, PortMode.none]
  | some partner =>
      have hpartner := hshows partner rfl
      simp only [fillPort, Port.key, Option.isSome_some, powerRole_eq hpartner,
        dataRole_eq hpartner, mode_eq hpartner, canSwitch_eq hpartner, Port.report,
        Option.elim_some, Bool.true_and, true_and]
      rw [DataRole.reported_eq, Partner.mode_eq]

/-- Where the files show the ports as they are, every client is told of every port as it is,
in the terms of its version and in the order of the ports. -/
theorem port_status_reported (files : Files) (ports : List Port) (version : HALVersion)
    (hshows : ∀ port ∈ ports, ∀ partner, port.partner = some partner →
      Shows files port.name partner) :
    queryVersionHelper (some version) (some (ports.map Port.key)) (fun _ => files) =
      (ports.map (Port.report version),
        some (ports.map (Port.report version), .success)) := by
  have hfill : fillPorts (fun _ => files) version (ports.map Port.key) =
      (ports.map (Port.report version), .success) := by
    induction ports with
    | nil => rfl
    | cons port rest ih =>
        have hport := fillPort_eq (hshows port List.mem_cons_self) version
        have hrest := ih fun other hother => hshows other (List.mem_cons_of_mem port hother)
        rw [List.map_cons, fillPorts, hport]
        simp only [hrest, List.map_cons]
  simp only [queryVersionHelper, getPortStatusHelper, hfill]

/-! One port charges a laptop that can swap roles, the other has nothing attached. -/

def laptop : Partner := ⟨.source, .device, .none, true⟩

def laptopFiles (filename : String) : Option String :=
  if filename = "/sys/class/typec/port0/power_role" then some "[source] sink\n"
  else if filename = "/sys/class/typec/port0/data_role" then some "host [device]\n"
  else if filename = "/sys/class/typec/port0-partner/accessory_mode" then some "none\n"
  else if filename = "/sys/class/typec/port0-partner/supports_usb_power_delivery" then
    some "yes\n"
  else none

theorem laptopFiles_shows : Shows laptopFiles "port0" laptop where
  powerRole := ⟨"[source] sink\n", rfl,
    @ShowsRole.among _ "source" "" " sink" (by decide) (by decide) ⟨by decide, [], rfl⟩⟩
  dataRole := ⟨"host [device]\n", rfl,
    @ShowsRole.among _ "device" "host " "" (by decide) (by decide) ⟨by decide, [], rfl⟩⟩
  accessory := ⟨"none\n", rfl, by decide, [], rfl⟩
  powerDelivery := ⟨"yes\n", rfl, by decide, [], rfl⟩

theorem port_status_reported_laptop :
    queryVersionHelper (some .V1_2) (some [("port0", true), ("port1", false)])
        (fun _ => laptopFiles) =
      ([Port.report .V1_2 ⟨"port0", some laptop⟩, Port.report .V1_2 ⟨"port1", none⟩],
        some ([Port.report .V1_2 ⟨"port0", some laptop⟩, Port.report .V1_2 ⟨"port1", none⟩],
          .success)) := by
  apply port_status_reported laptopFiles [⟨"port0", some laptop⟩, ⟨"port1", none⟩] .V1_2
  intro port hport partner hpartner
  rcases List.mem_cons.mp hport with rfl | hlast
  · obtain rfl : laptop = partner := Option.some.inj hpartner
    exact laptopFiles_shows
  · rw [List.mem_singleton.mp hlast] at hpartner
    contradiction

end PortReports
end Camellia.Usb
