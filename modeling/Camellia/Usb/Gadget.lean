import Mathlib.Tactic

/-!
# What a USB gadget configuration consists of

The operations of `UsbGadget` are straight lines of file and link operations
that return at the first failure.  A request is therefore modelled by the list
of operations that it performs, computed from the function mask and the vendor
configuration; the next modules let a list run step by step.
-/

namespace Camellia.Usb

abbrev Functions := BitVec 64

namespace GadgetFunction

def none : Functions := 0
def adb : Functions := 1
def accessory : Functions := 2
def mtp : Functions := 4
def midi : Functions := 8
def ptp : Functions := 16
def rndis : Functions := 32
def audioSource : Functions := 64

end GadgetFunction

inductive Status where
  | success
  | error
  | functionsApplied
  | functionsNotApplied
  | configurationNotSupported
deriving DecidableEq

/-! ## Vendor functions -/

/-- The system properties that the gadget reads. -/
structure Properties where
  buildType : String
  bootMode : String
  persistentVendorConfig : String
  vendorConfig : String

def getVendorFunctions (properties : Properties) : String :=
  if properties.buildType = "user" then "user"
  else if properties.vendorConfig ≠ "" then properties.vendorConfig
  else if properties.bootMode = "usbradio" then
    if properties.persistentVendorConfig ≠ "" then properties.persistentVendorConfig
    else "diag"
  else ""

/-- The tokens that `strtok(vendorFunctions, ",")` returns one after another. -/
def tokens (vendorFunctions : String) : List String :=
  ((vendorFunctions.toList.splitOn ',').filter (· ≠ [])).map String.ofList

def vendorFunction (token : String) : Option String :=
  if token = "diag" then some "diag.diag"
  else if token = "serial_cdev" then some "cser.dun.0"
  else if token = "rmnet_gsi" then some "gsi.rmnet"
  else none

structure VidPid where
  vid : String
  pid : String
deriving DecidableEq

def vendorVidPid (pid : String) : Option VidPid := some { vid := "0x05C6", pid := pid }

/-- What is written whatever the vendor functions are; they are only logged. -/
def anyVidPid (pid : String) : Option VidPid := some { vid := "0x18d1", pid := pid }

def plainVidPid (vendorFunctions pid : String) : Option VidPid :=
  if vendorFunctions = "user" ∨ vendorFunctions = "" then anyVidPid pid else none

open GadgetFunction in
/-- The identity that `validateAndSetVidPid` writes; `none` where it answers
`CONFIGURATION_NOT_SUPPORTED`. -/
def validateAndSetVidPid (functions : Functions) (vendorFunctions : String) :
    Option VidPid :=
  if functions = mtp then
    if vendorFunctions = "diag" then vendorVidPid "0x901B"
    else plainVidPid vendorFunctions "0x4ee1"
  else if functions = adb ||| mtp then
    if vendorFunctions = "diag" then vendorVidPid "0x903A"
    else plainVidPid vendorFunctions "0x4ee2"
  else if functions = rndis then
    if vendorFunctions = "diag" then vendorVidPid "0x902C"
    else if vendorFunctions = "serial_cdev,diag" then vendorVidPid "0x90B5"
    else plainVidPid vendorFunctions "0x4ee3"
  else if functions = adb ||| rndis then
    if vendorFunctions = "diag" then vendorVidPid "0x902D"
    else if vendorFunctions = "serial_cdev,diag" then vendorVidPid "0x90B6"
    else plainVidPid vendorFunctions "0x4ee4"
  else if functions = ptp then plainVidPid vendorFunctions "0x4ee5"
  else if functions = adb ||| ptp then plainVidPid vendorFunctions "0x4ee6"
  else if functions = adb then
    if vendorFunctions = "diag" then vendorVidPid "0x901D"
    else if vendorFunctions = "diag,serial_cdev,rmnet_gsi" then vendorVidPid "0x9091"
    else if vendorFunctions = "diag,serial_cdev" then vendorVidPid "0x901F"
    else plainVidPid vendorFunctions "0x4ee7"
  else if functions = midi then plainVidPid vendorFunctions "0x4ee8"
  else if functions = adb ||| midi then plainVidPid vendorFunctions "0x4ee9"
  else if functions = accessory then anyVidPid "0x2d00"
  else if functions = adb ||| accessory then anyVidPid "0x2d01"
  else if functions = audioSource then anyVidPid "0x2d02"
  else if functions = adb ||| audioSource then anyVidPid "0x2d03"
  else if functions = accessory ||| audioSource then anyVidPid "0x2d04"
  else if functions = adb ||| accessory ||| audioSource then anyVidPid "0x2d05"
  else none

/-! ## Taking a configuration down and setting it up -/

inductive TearDownOp where
  | pullDown
  | writeFile (path content : String)
  | unlinkFunctions
  | signalMonitor
  | joinMonitor
  | clearEndpoints
deriving DecidableEq

def tearDownGadget : List TearDownOp :=
  [.pullDown, .writeFile "bDeviceClass" "0", .writeFile "bDeviceSubClass" "0",
    .writeFile "bDeviceProtocol" "0", .writeFile "os_desc/use" "0", .unlinkFunctions,
    .signalMonitor, .joinMonitor, .clearEndpoints]

inductive SetupOp where
  | inotifyInit
  | writeFile (path content : String)
  | inotifyAddWatch (path : String)
  | linkFunction (function : String)
  | addEndpoints (endpoints : List String)
  | pullUp
  | eventfd
  | epollCreate
  | addEpollFd (fd : String)
  | startMonitor
deriving DecidableEq

def SetupOp.fallible : SetupOp → Bool
  | .addEndpoints _ => false
  | .startMonitor => false
  | _ => true

/-- A function whose driver is a user space process that writes descriptors to
endpoint files. -/
def ffsFunction (path function : String) (endpoints : List String) : List SetupOp :=
  [.writeFile "os_desc/use" "1", .inotifyAddWatch path, .linkFunction function,
    .addEndpoints (endpoints.map (path ++ ·))]

def hasFunction (functions bit : Functions) : Bool := functions &&& bit ≠ 0

def whenFunction (functions bit : Functions) (ops : List SetupOp) : List SetupOp :=
  if hasFunction functions bit then ops else []

open GadgetFunction

def ffsEnabled (functions : Functions) : Bool :=
  hasFunction functions mtp || hasFunction functions ptp || hasFunction functions adb

/-- `setupFunctions` up to the vendor functions. -/
def setupGadgetFunctions (functions : Functions) : List SetupOp :=
  [.inotifyInit] ++
  (if hasFunction functions mtp then
    ffsFunction "/dev/usb-ffs/mtp/" "ffs.mtp" ["ep1", "ep2", "ep3"]
  else whenFunction functions ptp
    (ffsFunction "/dev/usb-ffs/ptp/" "ffs.ptp" ["ep1", "ep2", "ep3"])) ++
  whenFunction functions midi [.linkFunction "midi.gs5"] ++
  whenFunction functions accessory [.linkFunction "accessory.gs2"] ++
  whenFunction functions audioSource [.linkFunction "audio_source.gs3"] ++
  whenFunction functions rndis [.linkFunction "rndis.gs4"]

def setupVendorFunctions (vendorFunctions : String) : List SetupOp :=
  ((tokens vendorFunctions).filterMap vendorFunction).map .linkFunction

def setupAdb (functions : Functions) : List SetupOp :=
  whenFunction functions adb (ffsFunction "/dev/usb-ffs/adb/" "ffs.adb" ["ep1", "ep2"])

/-- The rest of `setupFunctions`, up to the wait for the monitor. -/
def applyFunctions (functions : Functions) : List SetupOp :=
  if ffsEnabled functions then
    [.eventfd, .epollCreate, .addEpollFd "inotify", .addEpollFd "event", .startMonitor]
  else [.pullUp]

def setupFunctions (functions : Functions) (vendorFunctions : String) : List SetupOp :=
  setupGadgetFunctions functions ++ setupVendorFunctions vendorFunctions ++
    setupAdb functions ++ applyFunctions functions

/-! ## What a list of operations leaves behind -/

def SetupOp.linked : SetupOp → Option String
  | .linkFunction function => some function
  | _ => none

def SetupOp.endpoints : SetupOp → List String
  | .addEndpoints endpoints => endpoints
  | _ => []

def linkedFunctions (ops : List SetupOp) : List String := ops.filterMap SetupOp.linked

def addedEndpoints (ops : List SetupOp) : List String := ops.flatMap SetupOp.endpoints

/-- An entry of `configs/b.1`; links lead to a directory under `functions`. -/
structure ConfigEntry where
  name : String
  target : String
deriving DecidableEq

def functionsPath : String := "/config/usb_gadget/g1/functions/"

def functionLink (function : String) (index : ℕ) : ConfigEntry where
  name := "function" ++ toString index
  target := functionsPath ++ function

/-- The links `function0`, `function1`, ... to the given functions. -/
def functionLinks (functions : List String) : List ConfigEntry :=
  functions.zipIdx.map fun entry => functionLink entry.1 entry.2

/-- `strstr(d_name, "function") != NULL`. -/
def ConfigEntry.isFunction (entry : ConfigEntry) : Bool :=
  "function".toList <:+: entry.name.toList

theorem isFunction_functionLink (function : String) (index : ℕ) :
    (functionLink function index).isFunction = true := by
  have hname : (functionLink function index).name.toList =
      "function".toList ++ (toString index).toList := by
    rw [functionLink, String.toList_append]
  have hinfix : "function".toList <:+: "function".toList ++ (toString index).toList :=
    (List.prefix_append _ _).isInfix
  unfold ConfigEntry.isFunction
  rw [hname]
  exact decide_eq_true hinfix

theorem functionLinks_append (functions : List String) (function : String) :
    functionLinks (functions ++ [function]) =
      functionLinks functions ++ [functionLink function functions.length] := by
  simp [functionLinks, List.zipIdx_append]

/-! ## What an accepted request leaves behind -/

def Accepted (functions : Functions) : Prop :=
  ∃ vendorFunctions, (validateAndSetVidPid functions vendorFunctions).isSome = true

def acceptedFunctions : List Functions :=
  [mtp, adb ||| mtp, rndis, adb ||| rndis, ptp, adb ||| ptp, adb, midi, adb ||| midi,
    accessory, adb ||| accessory, audioSource, adb ||| audioSource,
    accessory ||| audioSource, adb ||| accessory ||| audioSource]

theorem Accepted.mem {functions : Functions} (haccepted : Accepted functions) :
    functions ∈ acceptedFunctions := by
  obtain ⟨vendorFunctions, hsome⟩ := haccepted
  by_contra hmem
  simp only [acceptedFunctions, List.mem_cons, List.not_mem_nil, or_false, not_or] at hmem
  simp only [validateAndSetVidPid, hmem, if_false, Option.isSome_none] at hsome
  contradiction

/-- The functions of the mask that come before the vendor functions, in the order of
`setupFunctions`. -/
def gadgetFunctions : List (Functions × String) :=
  [(mtp, "ffs.mtp"), (ptp, "ffs.ptp"), (midi, "midi.gs5"), (accessory, "accessory.gs2"),
    (audioSource, "audio_source.gs3"), (rndis, "rndis.gs4")]

/-- The entries of a table whose bit is set. -/
def selected (functions : Functions) (table : List (Functions × String)) :
    List (Functions × String) :=
  table.filter fun entry => hasFunction functions entry.1

def ffsEndpoints : List (Functions × List String) :=
  [(mtp, ["/dev/usb-ffs/mtp/ep1", "/dev/usb-ffs/mtp/ep2", "/dev/usb-ffs/mtp/ep3"]),
    (ptp, ["/dev/usb-ffs/ptp/ep1", "/dev/usb-ffs/ptp/ep2", "/dev/usb-ffs/ptp/ep3"]),
    (adb, ["/dev/usb-ffs/adb/ep1", "/dev/usb-ffs/adb/ep2"])]

@[simp] theorem linkedFunctions_append (ops rest : List SetupOp) :
    linkedFunctions (ops ++ rest) = linkedFunctions ops ++ linkedFunctions rest :=
  List.filterMap_append

@[simp] theorem addedEndpoints_append (ops rest : List SetupOp) :
    addedEndpoints (ops ++ rest) = addedEndpoints ops ++ addedEndpoints rest :=
  List.flatMap_append

theorem linkedFunctions_setupVendorFunctions (vendorFunctions : String) :
    linkedFunctions (setupVendorFunctions vendorFunctions) =
      (tokens vendorFunctions).filterMap vendorFunction := by
  unfold setupVendorFunctions
  induction (tokens vendorFunctions).filterMap vendorFunction with
  | nil => rfl
  | cons function rest ih => simpa [linkedFunctions, SetupOp.linked] using ih

theorem addedEndpoints_setupVendorFunctions (vendorFunctions : String) :
    addedEndpoints (setupVendorFunctions vendorFunctions) = [] := by
  rw [addedEndpoints, List.flatMap_eq_nil_iff]
  intro op hop
  obtain ⟨function, _, rfl⟩ := List.mem_map.mp hop
  rfl

theorem linkedFunctions_applyFunctions (functions : Functions) :
    linkedFunctions (applyFunctions functions) = [] := by
  unfold applyFunctions
  split <;> rfl

theorem addedEndpoints_applyFunctions (functions : Functions) :
    addedEndpoints (applyFunctions functions) = [] := by
  unfold applyFunctions
  split <;> rfl

theorem forall_accepted {P : Functions → Prop} [DecidablePred P]
    (hall : acceptedFunctions.all (fun functions => decide (P functions)) = true)
    {functions : Functions} (haccepted : Accepted functions) : P functions := by
  rw [List.all_eq_true] at hall
  exact of_decide_eq_true (hall functions haccepted.mem)

/-- The functions that a configuration links, in the order of their links. -/
def configuredFunctions (functions : Functions) (vendorFunctions : String) : List String :=
  (selected functions gadgetFunctions).map Prod.snd ++
    (tokens vendorFunctions).filterMap vendorFunction ++
    (selected functions [(adb, "ffs.adb")]).map Prod.snd

theorem linkedFunctions_setupFunctions {functions : Functions}
    (haccepted : Accepted functions) (vendorFunctions : String) :
    linkedFunctions (setupFunctions functions vendorFunctions) =
      configuredFunctions functions vendorFunctions := by
  have hgadget : linkedFunctions (setupGadgetFunctions functions) =
      (selected functions gadgetFunctions).map Prod.snd :=
    forall_accepted (P := fun functions => linkedFunctions (setupGadgetFunctions functions) =
      (selected functions gadgetFunctions).map Prod.snd) (by decide) haccepted
  have hadb : linkedFunctions (setupAdb functions) =
      (selected functions [(adb, "ffs.adb")]).map Prod.snd :=
    forall_accepted (P := fun functions => linkedFunctions (setupAdb functions) =
      (selected functions [(adb, "ffs.adb")]).map Prod.snd) (by decide) haccepted
  rw [setupFunctions, configuredFunctions, linkedFunctions_append, linkedFunctions_append,
    linkedFunctions_append, linkedFunctions_applyFunctions,
    linkedFunctions_setupVendorFunctions, hgadget, hadb, List.append_nil]

theorem addedEndpoints_setupFunctions {functions : Functions}
    (haccepted : Accepted functions) (vendorFunctions : String) :
    addedEndpoints (setupFunctions functions vendorFunctions) =
      (ffsEndpoints.filter fun entry => hasFunction functions entry.1).flatMap
        Prod.snd := by
  have hmask : addedEndpoints (setupGadgetFunctions functions) ++
        addedEndpoints (setupAdb functions) =
      (ffsEndpoints.filter fun entry => hasFunction functions entry.1).flatMap Prod.snd :=
    forall_accepted (P := fun functions =>
      addedEndpoints (setupGadgetFunctions functions) ++
        addedEndpoints (setupAdb functions) =
      (ffsEndpoints.filter fun entry => hasFunction functions entry.1).flatMap Prod.snd)
      (by decide) haccepted
  rw [setupFunctions, addedEndpoints_append, addedEndpoints_append,
    addedEndpoints_append, addedEndpoints_applyFunctions,
    addedEndpoints_setupVendorFunctions, List.append_nil, List.append_nil, hmask]

/-- The bits of a mask, each as a mask of its own. -/
def bits (functions : Functions) : List Functions :=
  ((List.range 64).filter fun index => functions.getLsbD index).map (BitVec.twoPow 64)

/-- An accepted mask has a function for each of its bits. -/
theorem selected_perm_bits {functions : Functions} (haccepted : Accepted functions) :
    ((selected functions (gadgetFunctions ++ [(adb, "ffs.adb")])).map Prod.fst).Perm
      (bits functions) :=
  forall_accepted (P := fun functions =>
    ((selected functions (gadgetFunctions ++ [(adb, "ffs.adb")])).map Prod.fst).Perm
      (bits functions)) (by decide) haccepted

/-- Either operation ends `setupFunctions`. -/
def SetupOp.isLast : SetupOp → Bool
  | .pullUp => true
  | .startMonitor => true
  | _ => false

/-- The last operation, and it alone, pulls the gadget up or leaves this to a monitor. -/
theorem setupFunctions_last {functions : Functions} (haccepted : Accepted functions)
    (vendorFunctions : String) :
    ∃ before, (∀ op ∈ before, op.isLast = false) ∧
      setupFunctions functions vendorFunctions =
        before ++ [if ffsEnabled functions then .startMonitor else .pullUp] := by
  have hmask : ∀ op ∈ setupGadgetFunctions functions ++ setupAdb functions ++
      (applyFunctions functions).dropLast, op.isLast = false :=
    forall_accepted (P := fun functions => ∀ op ∈ setupGadgetFunctions functions ++
      setupAdb functions ++ (applyFunctions functions).dropLast, op.isLast = false)
      (by decide) haccepted
  refine ⟨setupGadgetFunctions functions ++ setupVendorFunctions vendorFunctions ++
    setupAdb functions ++ (applyFunctions functions).dropLast, ?_, ?_⟩
  · intro op hop
    simp only [List.mem_append] at hop hmask
    rcases hop with ((hgadget | hvendor) | hadb) | happly
    · exact hmask op (Or.inl (Or.inl hgadget))
    · obtain ⟨function, _, rfl⟩ := List.mem_map.mp hvendor
      rfl
    · exact hmask op (Or.inl (Or.inr hadb))
    · exact hmask op (Or.inr happly)
  · have happly : applyFunctions functions = (applyFunctions functions).dropLast ++
        [if ffsEnabled functions then .startMonitor else .pullUp] := by
      unfold applyFunctions
      split <;> rfl
    rw [setupFunctions, List.append_assoc _ (applyFunctions functions).dropLast, ← happly]

/-- A last operation is the last one, and which it is depends on the mask. -/
theorem setupFunctions_split {functions : Functions} (haccepted : Accepted functions)
    {vendorFunctions : String} {finished remaining : List SetupOp} {op : SetupOp}
    (hprogram : finished ++ op :: remaining = setupFunctions functions vendorFunctions)
    (hlast : op.isLast = true) :
    remaining = [] ∧ op = if ffsEnabled functions then .startMonitor else .pullUp := by
  obtain ⟨before, hbefore, hsetup⟩ := setupFunctions_last haccepted vendorFunctions
  rw [hsetup] at hprogram
  rcases List.eq_nil_or_concat remaining with rfl | ⟨middle, final, rfl⟩
  · exact ⟨rfl, List.singleton_inj.mp (List.append_inj' hprogram rfl).2⟩
  · have hsplit : (finished ++ op :: middle) ++ [final] =
        before ++ [if ffsEnabled functions then .startMonitor else .pullUp] := by
      rw [← hprogram, List.append_assoc, List.cons_append, List.concat_eq_append]
    have hmem : op ∈ before := by
      rw [← (List.append_inj' hsplit rfl).1]
      simp
    rw [hbefore op hmem] at hlast
    contradiction

end Camellia.Usb
