import FareSearch.Provider.Basic

/-!
# Scripted providers

A provider that follows a script, for rehearsing slow, failing, hanging and broken providers. Its
calls follow the steps of the script in turn, the last one for all further calls, and are logged.
-/

namespace FareSearch

/-- What a scripted call does once its delay is over. -/
inductive ScriptedAction where
  | answer (records : Option (List Flight))
  | fail (error : ProviderError)
  | hang
  | crash

structure ScriptedCall where
  delay : Duration := 0
  action : ScriptedAction := .answer none

/-- The calls made so far: when, and for what. -/
abbrev CallLog := List (Instant × SearchRequest)

structure ScriptedProvider where
  name : String
  records : List Flight := []
  script : List ScriptedCall := []

namespace ScriptedProvider

/-- The step for a call, counted from 0. Without a script the records are served at once. -/
def step (provider : ScriptedProvider) (call : Nat) : ScriptedCall :=
  match provider.script[call]? with
  | some step => step
  | none => provider.script.getLast?.getD {}

/-- Carries out an action. -/
def perform (provider : ScriptedProvider) (stop : StopSignal) :
    ScriptedAction → Task CallLog Answer
  | .answer records => .done (.ok (records.getD provider.records))
  | .fail error => .done (.error error)
  | .hang => .untilStopped none stop (fun _ ↦ .done (.error .cancelled))
      (fun _ ↦ .done (.error .cancelled))
  | .crash => .crashed

def toProvider (provider : ScriptedProvider) : Provider CallLog where
  name := provider.name
  search request stop :=
    .act (fun now log ↦ log ++ [(now, request)]) fun _ log ↦
      let step := provider.step log.length
      .pause step.delay stop (fun _ ↦ provider.perform stop step.action)
        (fun _ ↦ .done (.error .cancelled))

end ScriptedProvider

end FareSearch
