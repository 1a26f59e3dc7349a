import FareSearch.Proofs.Search.Offers
import FareSearch.Proofs.Search.Passage

/-!
# Timing does not show in an outcome

Two passages of one search in which every provider comes to the same final results end with the same
outcome, but for the time they took: how long the providers needed, how often they were tried, in
which order they were done and what other searches did meanwhile makes no difference. This includes
the order of flights that compare equal.
-/

namespace FareSearch.SearchService

variable {σ τ : Type} {service : SearchService σ} {other : SearchService τ}
  {criteria : SearchCriteria} {stop otherStop : StopSignal} {start otherStart : Instant}
  {results : FinalResults} {outcome otherOutcome : SearchOutcome}

/-- The providers of the two services share their names only. -/
theorem outcome_agrees (hnames : service.names = other.names)
    (hweights : service.weights = other.weights)
    (passage : service.Passage criteria stop start (.finished (.ok outcome)) results)
    (hasked : outcome.metadata.cacheHit = false)
    (otherPassage :
      other.Passage criteria otherStop otherStart (.finished (.ok otherOutcome)) results)
    (hotherAsked : otherOutcome.metadata.cacheHit = false) :
    outcome.criteria = otherOutcome.criteria ∧ outcome.flights = otherOutcome.flights ∧
      outcome.returnFlights = otherOutcome.returnFlights ∧
      outcome.metadata =
        { otherOutcome.metadata with
          searchTimeMillis := outcome.metadata.searchTimeMillis } := by
  obtain ⟨elapsed, houtcome⟩ := passage.exists_eq_outcomeFrom hasked
  obtain ⟨otherElapsed, hother⟩ := otherPassage.exists_eq_outcomeFrom hotherAsked
  have hnamed : service.named = other.named := by
    funext answers
    rw [named, named, hnames]
  rw [houtcome, hother]
  unfold outcomeFrom
  rw [hnames, hweights, hnamed]
  exact ⟨rfl, rfl, rfl, rfl⟩

/-- The providers of the prompt service, of which the first takes its time. -/
def slowService : SearchService Unit where
  providers :=
    [ FanOut.slowProvider "Garuda" 100 (.done (.ok [morningFlight "Garuda" highPrice])),
      promptProvider "Lion" [morningFlight "Lion" lowPrice] ]

def morningResults : FinalResults where
  outbound := [.ok [morningFlight "Garuda" highPrice], .ok [morningFlight "Lion" lowPrice]]
  inbound := [.ok [morningFlight "Garuda" highPrice], .ok [morningFlight "Lion" lowPrice]]

theorem outcome_agrees_slow :
    ∃ outcome slowOutcome,
      promptService.Passage tripCriteria none 0 (.finished (.ok outcome)) morningResults ∧
      slowService.Passage tripCriteria none 0 (.finished (.ok slowOutcome)) morningResults ∧
      outcome.flights = slowOutcome.flights ∧
      outcome.metadata.searchTimeMillis = 0 ∧ slowOutcome.metadata.searchTimeMillis = 200 := by
  have hprompt : promptService.Passage tripCriteria none 0
      (.finished (.ok (promptService.outcomeFrom tripCriteria morningResults 0))) morningResults :=
    (((Passage.begins.turns 0 { states := [(), ()] }).turns 0 { states := [(), ()] }).turns 0
      { states := [(), ()] })
  have hslow : slowService.Passage tripCriteria none 0
      (.finished (.ok (slowService.outcomeFrom tripCriteria morningResults 200))) morningResults :=
    (((((Passage.begins.turns 0 { states := [(), ()] }).turns 0 { states := [(), ()] }).turns
      100000000 { states := [(), ()] }).turns 100000000 { states := [(), ()] }).turns
      200000000 { states := [(), ()] })
  have hnames : promptService.names = slowService.names := rfl
  exact ⟨_, _, hprompt, hslow, (outcome_agrees hnames rfl hprompt rfl hslow rfl).2.1, rfl, rfl⟩

end FareSearch.SearchService
