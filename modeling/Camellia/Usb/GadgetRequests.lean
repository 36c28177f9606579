import Camellia.Usb.GadgetRuns

/-!
# What a request sets up and what it answers

The clean-up after a failed request is left to `tearDownGadget` of the next one,
which may fail as well.  Whatever the history, no request enters
`setupFunctions` before the clean-up has gone through, one that leaves it with
`SUCCESS` has set up precisely its own configuration, and the callback of every
request hears once how it ended.
-/

namespace Camellia.Usb
namespace Gadget

open Transition

/-- The thread of a monitor exists and has not ended. -/
def State.monitorRuns (state : State) : Bool :=
  state.monitor.any fun monitor => monitor.stage ≠ .stopped

/-- Where `setupFunctions` has been entered and nothing of it been done. -/
def StartsClean (state : State) : Prop :=
  ∀ request setup, state.request = some request → request.phase = .settingUp →
    request.setup = some setup → setup.finished = [] →
      functionEntries state.configDir = [] ∧ state.mEndpointList = [] ∧
        state.monitor = none

/-- Where `setupFunctions` has returned `SUCCESS`. -/
def EndsComplete (state : State) : Prop :=
  ∀ request setup, state.request = some request → request.phase = .returned →
    request.setup = some setup → setup.remaining = [] →
      functionEntries state.configDir =
          functionLinks (configuredFunctions request.functions setup.vendorFunctions) ∧
        ((selected request.functions
            (gadgetFunctions ++ [(GadgetFunction.adb, "ffs.adb")])).map Prod.fst).Perm
          (bits request.functions) ∧
        state.mEndpointList =
          (ffsEndpoints.filter fun entry =>
            hasFunction request.functions entry.1).flatMap Prod.snd ∧
        (state.monitorRuns = true ↔
          hasFunction request.functions GadgetFunction.mtp = true ∨
            hasFunction request.functions GadgetFunction.ptp = true ∨
            hasFunction request.functions GadgetFunction.adb = true)

theorem Consistent.startsClean {state : State} (hconsistent : Consistent state) :
    StartsClean state := by
  intro request setup hrequest hphase hsetup hfinished
  have hok := hconsistent.request request hrequest
  simp only [RequestOk, hphase] at hok
  obtain ⟨_, other, hruns, ⟨hlinks, hendpoints⟩, hmonitor⟩ := hok
  obtain rfl := Option.some.inj (hsetup.symm.trans hruns.runs)
  rw [hfinished] at hlinks hendpoints
  exact ⟨hlinks, hendpoints, by simpa using hmonitor⟩

/-- Only a request that joins the monitor lets it end. -/
theorem Consistent.monitorRuns_of_returned {state : State} (hconsistent : Consistent state)
    {request : Request} (hrequest : state.request = some request)
    (hphase : request.phase = .returned) : state.monitorRuns = state.monitor.isSome := by
  cases hmonitor : state.monitor with
  | none => simp [State.monitorRuns, hmonitor]
  | some monitor =>
      have hrunning : monitor.stage ≠ .stopped := by
        intro hstopped
        have hjoins := hconsistent.signalled monitor request hmonitor hrequest
          (hconsistent.stopped monitor hmonitor hstopped)
        exact hjoins.phase_ne hphase (by simp)
      simp [State.monitorRuns, hmonitor, hrunning]

theorem Request.Runs.linked {state : State} {request : Request} {setup : Setup}
    (hruns : request.Runs setup) (hremaining : setup.remaining = [])
    (hsetUp : SetUpTo state setup.finished) :
    functionEntries state.configDir =
        functionLinks (configuredFunctions request.functions setup.vendorFunctions) ∧
      state.mEndpointList =
        (ffsEndpoints.filter fun entry =>
          hasFunction request.functions entry.1).flatMap Prod.snd := by
  have hfinished : setup.finished =
      setupFunctions request.functions setup.vendorFunctions := by
    rw [← hruns.program, hremaining, List.append_nil]
  obtain ⟨hlinks, hendpoints⟩ := hsetUp
  refine ⟨?_, ?_⟩
  · rw [hlinks, hfinished, linkedFunctions_setupFunctions hruns.accepted]
  · rw [hendpoints, hfinished, addedEndpoints_setupFunctions hruns.accepted]

theorem Consistent.endsComplete {state : State} (hconsistent : Consistent state) :
    EndsComplete state := by
  intro request setup hrequest hphase hsetup hremaining
  have hok := hconsistent.request request hrequest
  simp only [RequestOk, hphase] at hok
  have hleft := hok.2.2 setup hsetup
  rw [if_pos hremaining] at hleft
  obtain ⟨hruns, hsetUp, hmonitor⟩ := hleft
  obtain ⟨hlinks, hendpoints⟩ := hruns.linked hremaining hsetUp
  refine ⟨hlinks, selected_perm_bits hruns.accepted, hendpoints, ?_⟩
  rw [hconsistent.monitorRuns_of_returned hrequest hphase, hmonitor, ffsEnabled,
    Bool.or_eq_true, Bool.or_eq_true, or_assoc]

/-- Where `setCurrentUsbFunctions` has returned.  The record of the pull-up is that of the
monitor of this request, made before the wait ended. -/
def RepliesTruthfully (state : State) : Prop :=
  ∀ request, state.request = some request → request.phase = .returned →
    request.callback = true →
      ∃ status, request.replies = [(request.functions, status)] ∧
        (status = .success ↔
          (request.functions = GadgetFunction.none ∧ request.tornDown = true) ∨
            (request.pulledUp = true ∧
              (ffsEnabled request.functions = true → request.recorded = true)))

/-- Each callback is called once, and with `SUCCESS` exactly where the request took effect. -/
theorem callbacks_once_and_truthful (functions : Functions) (configDir : List ConfigEntry)
    (actions : List Action) :
    EveryState step RepliesTruthfully (State.initial functions configDir) actions := by
  refine (consistent_run functions configDir actions).imp fun state hconsistent => ?_
  intro request hrequest hphase hcallback
  have hok := hconsistent.request request hrequest
  simp only [RequestOk, hphase] at hok
  exact hok.1.once hcallback

/-- A request without anything to unlink, up to `setupFunctions`. -/
def requestUpToSetup (functions : Functions) (properties : Properties) : List Action :=
  [.setCurrentUsbFunctions functions true, .clearApplied, .tearDown true, .tearDown true,
    .tearDown true, .tearDown true, .tearDown true, .unlinkFunctions [] none,
    .tearDown true, .tearDown true, .tearDown true,
    .validateAndSetVidPid properties true, .enterSetupFunctions properties]

def plainProperties : Properties where
  buildType := "userdebug"
  bootMode := "normal"
  persistentVendorConfig := ""
  vendorConfig := ""

/-- ADB beside a diagnostic port: both are linked and the monitor runs, but the endpoints do
not appear before the time is over. -/
example :
    (run step (State.initial GadgetFunction.none [])
      (requestUpToSetup GadgetFunction.adb { plainProperties with vendorConfig := "diag" } ++
        List.replicate 11 (Action.setup true) ++ [.monitorStart false, .waitEnds])).any
      (fun state =>
        state.configDir = [functionLink "diag.diag" 0, functionLink "ffs.adb" 1] &&
          state.monitorRuns &&
          state.request.any fun request =>
            request.replies = [(GadgetFunction.adb, .error)]) = true := by
  decide

end Gadget
end Camellia.Usb
