import Camellia.Sensors.HalProxy
import Camellia.Sensors.HandleRouting
import Camellia.Words

/-!
# Loading the sub-HALs from the configuration file

The file holds library names separated by white space.  A library that cannot be opened
or reports another version is left out, so the index of a sub-HAL counts the libraries
before it that were loaded.  The handles of its sensors carry this index, and requests on
them come back to the library that the file names.
-/

namespace Camellia.Sensors

/-- What an entry point of a shared object returns: the version it writes, and the sub-HAL
as its wrapper shows it. -/
structure GetSubHal where
  version : BitVec 32
  subHal : SubHal

structure SharedObject where
  sensorsHalGetSubHal : Option GetSubHal
  sensorsHalGetSubHal_2_1 : Option GetSubHal

/-- What the build and the dynamic linker supply. -/
structure SubHalLoader where
  lp64 : Bool
  subHal_2_0_version : BitVec 32
  subHal_2_1_version : BitVec 32
  dlopen : String → Option SharedObject

namespace SubHalLoader

/-- `isspace` of the C locale. -/
def isspace (c : Char) : Bool := c.toNat = 32 || (9 ≤ c.toNat && c.toNat ≤ 13)

variable (loader : SubHalLoader)

def kSubHalShareObjectLocations : List String :=
  -- the default locations are searched for a name without a directory
  if loader.lp64 then ["", "/vendor/lib64/hw/", "/odm/lib64/hw/"]
  else ["", "/vendor/lib/hw/", "/odm/lib/hw/"]

def getHandleForSubHalSharedObject (filename : String) : Option SharedObject :=
  loader.kSubHalShareObjectLocations.findSome? fun dir => loader.dlopen (dir ++ filename)

/-- The body of the loop: the sub-HAL that is pushed for a library, if any. -/
def loadSubHal (subHalLibraryFile : String) : Option SubHal :=
  match loader.getHandleForSubHalSharedObject subHalLibraryFile with
  | none => none
  | some handle =>
      match handle.sensorsHalGetSubHal with
      | some found =>
          if found.version ≠ loader.subHal_2_0_version then none else some found.subHal
      | none =>
          match handle.sensorsHalGetSubHal_2_1 with
          | none => none
          | some found =>
              if found.version ≠ loader.subHal_2_1_version then none else some found.subHal

/-- `none` is a file that cannot be opened. -/
def initializeSubHalListFromConfigFile (configFile : Option String) : List SubHal :=
  match configFile with
  | none => []
  | some text =>
      Words.forEachWord isspace
        (fun mSubHalList subHalLibraryFile =>
          mSubHalList ++ (loader.loadSubHal (.ofList subHalLibraryFile)).toList)
        [] text.toList

/-- The default constructor; `push_back` fails before a vector gets too long. -/
def construct (configFile : Option String) : Option HalProxy :=
  let mSubHalList := loader.initializeSubHalListFromConfigFile configFile
  if hsize : mSubHalList.length < 2 ^ 63 then some (.construct ⟨mSubHalList, hsize⟩) else none

end SubHalLoader

/-! ## Positions in the file and indices in the list -/

/-- How many of the libraries before a position were loaded. -/
def loadedBefore {α β : Type*} (load : α → Option β) (names : List α) (position : ℕ) : ℕ :=
  ((names.take position).filterMap load).length

section Positions

variable {α β : Type*} {load : α → Option β}

theorem loadedBefore_zero (names : List α) : loadedBefore load names 0 = 0 := rfl

theorem loadedBefore_succ (name : α) (names : List α) (position : ℕ) :
    loadedBefore load (name :: names) (position + 1) =
      (load name).toList.length + loadedBefore load names position := by
  unfold loadedBefore
  rw [List.take_succ_cons, List.filterMap_cons]
  cases load name with
  | none => simp
  | some loaded => simp [Nat.add_comm]

theorem getElem?_loadedBefore {names : List α} {position : ℕ} {name : α} {loaded : β}
    (hname : names[position]? = some name) (hload : load name = some loaded) :
    (names.filterMap load)[loadedBefore load names position]? = some loaded := by
  have hlt := (List.getElem?_eq_some_iff.mp hname).1
  have hget := (List.getElem?_eq_some_iff.mp hname).2
  have hsplit : names.filterMap load = (names.take position).filterMap load ++
      loaded :: (names.drop (position + 1)).filterMap load := by
    rw [← List.filterMap_cons_some hload, ← List.filterMap_append, ← hget,
      List.getElem_cons_drop, List.take_append_drop]
  rw [hsplit, loadedBefore, List.getElem?_append_right le_rfl, Nat.sub_self]
  rfl

/-- Every entry of the list has its place in the file. -/
theorem exists_position {names : List α} {index : ℕ} {loaded : β}
    (hget : (names.filterMap load)[index]? = some loaded) :
    ∃ (position : ℕ) (name : α), names[position]? = some name ∧ load name = some loaded ∧
      loadedBefore load names position = index := by
  induction names generalizing index with
  | nil => simp at hget
  | cons name names ih =>
      cases hload : load name with
      | none =>
          rw [List.filterMap_cons_none hload] at hget
          obtain ⟨position, other, hother, hsome, hindex⟩ := ih hget
          refine ⟨position + 1, other, hother, hsome, ?_⟩
          rw [loadedBefore_succ, hload, hindex]
          simp
      | some first =>
          rw [List.filterMap_cons_some hload] at hget
          cases index with
          | zero => exact ⟨0, name, rfl, hload.trans hget, loadedBefore_zero _⟩
          | succ index =>
              obtain ⟨position, other, hother, hsome, hindex⟩ := ih hget
              refine ⟨position + 1, other, hother, hsome, ?_⟩
              rw [loadedBefore_succ, hload, hindex]
              simp [Nat.add_comm]

/-- Two libraries that are loaded never get the same index. -/
theorem loadedBefore_injective {names : List α} {position other : ℕ} {name otherName : α}
    (hname : names[position]? = some name) (hother : names[other]? = some otherName)
    (hload : (load name).isSome) (hotherLoad : (load otherName).isSome)
    (heq : loadedBefore load names position = loadedBefore load names other) :
    position = other := by
  induction names generalizing position other with
  | nil => simp at hname
  | cons first names ih =>
      have hone : ∀ {loaded : α}, (load loaded).isSome → (load loaded).toList.length = 1 := by
        intro loaded hsome
        rw [Option.length_toList, if_pos hsome]
      cases position with
      | zero =>
          cases other with
          | zero => rfl
          | succ other =>
              have hfirst : first = name := Option.some.inj hname
              rw [loadedBefore_zero, loadedBefore_succ, hfirst, hone hload] at heq
              omega
      | succ position =>
          cases other with
          | zero =>
              have hfirst : first = otherName := Option.some.inj hother
              rw [loadedBefore_zero, loadedBefore_succ, hfirst, hone hotherLoad] at heq
              omega
          | succ other =>
              rw [loadedBefore_succ, loadedBefore_succ, Nat.add_left_cancel_iff] at heq
              exact congrArg (· + 1) (ih hname hother heq)

end Positions

/-! ## The libraries of a file -/

namespace SubHalLoader

/-- The text of a file that lists these names. -/
def Lists (names : List String) (text : String) : Prop :=
  Words.Spells isspace (names.map String.toList) text.toList

/-- Every text is the text of some file. -/
theorem exists_lists (text : String) : ∃ names, Lists names text := by
  obtain ⟨words, hwords⟩ := @Words.exists_spells _ isspace text.toList
  refine ⟨words.map String.ofList, ?_⟩
  have hnames : (words.map String.ofList).map String.toList = words := by
    simp [List.map_map, Function.comp_def]
  rw [Lists, hnames]
  exact hwords

/-- The library at a position of the file is loaded and reports a sensor that the proxy
keeps. -/
structure Provides (loader : SubHalLoader) (names : List String) (position : ℕ)
    (sensor : SensorInfo) : Prop where
  loads : ∃ name subHal, names[position]? = some name ∧
    loader.loadSubHal name = some subHal ∧ sensor ∈ subHal.sensors
  isClear : subHalIndexIsClear sensor.sensorHandle = true
  keeps : sensor.typeAsString = "xiaomi pick up sensor" → sensor.isWakeUp = true

def subHalIndex (loader : SubHalLoader) (names : List String) (position : ℕ) : ℕ :=
  loadedBefore loader.loadSubHal names position

variable {loader : SubHalLoader} {names : List String}

theorem initializeSubHalListFromConfigFile_eq {text : String} (htext : Lists names text) :
    loader.initializeSubHalListFromConfigFile (some text) =
      names.filterMap loader.loadSubHal := by
  have hfold : ∀ (names : List String) (mSubHalList : List SubHal),
      (names.map String.toList).foldl
        (fun mSubHalList subHalLibraryFile =>
          mSubHalList ++ (loader.loadSubHal (.ofList subHalLibraryFile)).toList) mSubHalList =
        mSubHalList ++ names.filterMap loader.loadSubHal := by
    intro names
    induction names with
    | nil => simp
    | cons name names ih =>
        intro mSubHalList
        rw [List.map_cons, List.foldl_cons, ih, String.ofList_toList, List.append_assoc]
        cases hload : loader.loadSubHal name with
        | none => rw [List.filterMap_cons_none hload]; rfl
        | some subHal => rw [List.filterMap_cons_some hload]; rfl
  rw [initializeSubHalListFromConfigFile, htext.forEachWord, hfold, List.nil_append]

theorem construct_eq {text : String} (htext : Lists names text) {proxy : HalProxy}
    (hconstruct : loader.construct (some text) = some proxy) :
    proxy.mSubHalList.toList = names.filterMap loader.loadSubHal ∧
      proxy.mSensors = (initializeSensorList proxy.mSubHalList).mSensors := by
  unfold construct at hconstruct
  simp only at hconstruct
  split at hconstruct
  · rw [← Option.some.inj hconstruct]
    exact ⟨initializeSubHalListFromConfigFile_eq htext, rfl⟩
  · contradiction

section Constructed

variable {subHals : SubHalList}
  (hsubHals : subHals.toList = names.filterMap loader.loadSubHal)
include hsubHals

theorem size_le : subHals.size ≤ names.length := by
  rw [SubHalList.size, hsubHals]
  exact List.length_filterMap_le _ _

theorem Provides.lists {position : ℕ} {sensor : SensorInfo}
    (hprovides : Provides loader names position sensor) :
    Sensors.Lists subHals (loader.subHalIndex names position) sensor := by
  obtain ⟨name, subHal, hname, hload, hsensor⟩ := hprovides.loads
  refine ⟨⟨subHal, ?_, hsensor⟩, hprovides.isClear, hprovides.keeps⟩
  rw [hsubHals]
  exact getElem?_loadedBefore hname hload

theorem provides_of_lists {index : ℕ} {sensor : SensorInfo}
    (hlists : Sensors.Lists subHals index sensor) :
    ∃ position, Provides loader names position sensor ∧
      loader.subHalIndex names position = index := by
  obtain ⟨subHal, hget, hsensor⟩ := hlists.reports
  rw [hsubHals] at hget
  obtain ⟨position, name, hname, hload, hindex⟩ := exists_position hget
  exact ⟨position, ⟨⟨name, subHal, hname, hload, hsensor⟩, hlists.isClear, hlists.keeps⟩,
    hindex⟩

end Constructed

/-- However the names are separated, the proxy lists every kept sensor of every library
that loads, under a handle that no other library shares, and routes the requests on it to
that library under the handle the library knows; and it lists nothing else. -/
theorem configured_sensors_are_routed (loader : SubHalLoader) (names : List String)
    (text : String) (htext : Lists names text) (hsize : names.length ≤ 128) :
    ∃ proxy, loader.construct (some text) = some proxy ∧
      (∀ position sensor, Provides loader names position sensor →
        let index := loader.subHalIndex names position
        setSubHalIndex sensor.sensorHandle index ∈ proxy.mSensors ∧
          RoutesTo proxy.mSubHalList (setSubHalIndex sensor.sensorHandle index) index
            sensor.sensorHandle) ∧
      (∀ listed ∈ proxy.mSensors, ∃ position sensor, Provides loader names position sensor ∧
        listed = setSubHalIndex sensor.sensorHandle (loader.subHalIndex names position)) ∧
      ∀ position sensor other otherSensor, Provides loader names position sensor →
        Provides loader names other otherSensor →
        setSubHalIndex sensor.sensorHandle (loader.subHalIndex names position) =
          setSubHalIndex otherSensor.sensorHandle (loader.subHalIndex names other) →
        position = other ∧ sensor.sensorHandle = otherSensor.sensorHandle := by
  have hlength : (loader.initializeSubHalListFromConfigFile (some text)).length < 2 ^ 63 := by
    rw [initializeSubHalListFromConfigFile_eq htext]
    have hshort := List.length_filterMap_le loader.loadSubHal names
    omega
  have hconstruct : loader.construct (some text) = some (.construct ⟨_, hlength⟩) := by
    rw [construct, dif_pos hlength]
  generalize HalProxy.construct ⟨_, hlength⟩ = proxy at hconstruct
  obtain ⟨hsubHals, hsensors⟩ := construct_eq htext hconstruct
  refine ⟨proxy, hconstruct, ?_, ?_, ?_⟩
  · intro position sensor hprovides index
    have hlists := hprovides.lists hsubHals
    have hsmall : index < 128 :=
      hlists.reports.index_lt.trans_le ((size_le hsubHals).trans hsize)
    refine ⟨?_, hlists.routesTo hsmall⟩
    rw [hsensors, mem_initializeSensorList]
    exact ⟨index, sensor, hlists, rfl⟩
  · intro listed hlisted
    rw [hsensors, mem_initializeSensorList] at hlisted
    obtain ⟨index, sensor, hlists, hkey⟩ := hlisted
    obtain ⟨position, hprovides, hindex⟩ := provides_of_lists hsubHals hlists
    exact ⟨position, sensor, hprovides, hindex ▸ hkey⟩
  · intro position sensor other otherSensor hprovides hother heq
    have hsame := (hprovides.lists hsubHals).handle_injective (hother.lists hsubHals)
      ((size_le hsubHals).trans hsize) heq
    obtain ⟨name, subHal, hname, hload, _⟩ := hprovides.loads
    obtain ⟨otherName, otherSubHal, hotherName, hotherLoad, _⟩ := hother.loads
    refine ⟨?_, hsame.2⟩
    exact loadedBefore_injective hname hotherName (by rw [hload]; rfl)
      (by rw [hotherLoad]; rfl) hsame.1

/-- The first library of the file is missing, the other two are vendor libraries for the
two versions of the interface. -/
def vendorLoader : SubHalLoader where
  lp64 := true
  subHal_2_0_version := 2
  subHal_2_1_version := 3
  dlopen path :=
    if path = "/vendor/lib64/hw/b.so" then
      some ⟨some ⟨2, ⟨[{ (default : SensorInfo) with sensorHandle := 1 }]⟩⟩, none⟩
    else if path = "/odm/lib64/hw/c.so" then
      some ⟨none, some ⟨3, ⟨[{ (default : SensorInfo) with sensorHandle := 7 }]⟩⟩⟩
    else none

theorem vendorLoader_lists : Lists ["a.so", "b.so", "c.so"] " a.so b.so  c.so" := by
  have hlast : Words.Spells isspace [] [] := .blank (by simp)
  have hthird : Words.Spells isspace [['c', '.', 's', 'o']]
      ([' ', ' '] ++ (['c', '.', 's', 'o'] ++ [])) :=
    .word _ (by simp [isspace]) (by simp) (by simp [isspace]) (by simp) hlast
  have hsecond : Words.Spells isspace [['b', '.', 's', 'o'], ['c', '.', 's', 'o']]
      ([' '] ++ (['b', '.', 's', 'o'] ++ ([' ', ' '] ++ (['c', '.', 's', 'o'] ++ [])))) :=
    .word _ (by simp [isspace]) (by simp) (by simp [isspace]) (by simp [isspace]) hthird
  have hfirst : Words.Spells isspace
      [['a', '.', 's', 'o'], ['b', '.', 's', 'o'], ['c', '.', 's', 'o']]
      ([' '] ++ (['a', '.', 's', 'o'] ++ ([' '] ++ (['b', '.', 's', 'o'] ++
        ([' ', ' '] ++ (['c', '.', 's', 'o'] ++ [])))))) :=
    .word _ (by simp [isspace]) (by simp) (by simp [isspace]) (by simp [isspace]) hsecond
  exact hfirst

theorem configured_sensors_are_routed_vendor :
    ∃ proxy, vendorLoader.construct (some " a.so b.so  c.so") = some proxy ∧
      0x01000007 ∈ proxy.mSensors ∧
      RoutesTo proxy.mSubHalList 0x01000007 1 7 := by
  obtain ⟨proxy, hconstruct, hrouted, _⟩ :=
    configured_sensors_are_routed vendorLoader ["a.so", "b.so", "c.so"] " a.so b.so  c.so"
      vendorLoader_lists (by decide)
  have hprovides : Provides vendorLoader ["a.so", "b.so", "c.so"] 2
      { (default : SensorInfo) with sensorHandle := 7 } :=
    ⟨⟨"c.so", _, rfl, rfl, List.mem_cons_self⟩, by decide, by decide⟩
  have hthird := hrouted 2 _ hprovides
  exact ⟨proxy, hconstruct, hthird⟩

end SubHalLoader

end Camellia.Sensors
