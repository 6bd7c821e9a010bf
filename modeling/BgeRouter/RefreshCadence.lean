import BgeRouter.Discovery
import BgeRouter.Library.CappedDoubling

/-!
# The cadence of the refreshes

The discovery loop keeps only its last sleep and whether the last refresh
found an upstream.  Here its sleeps are told from the whole sequence of
answers: the steady-state interval after a healthy refresh, and a schedule
that doubles from two seconds within each outage.
-/

namespace BgeRouter

section Runs

variable (dnsRefresh : Duration) (answers : Nat → ResolveResult × ResolveResult)

/-- Whether a refresh found an upstream; the refreshes are numbered from zero. -/
def healthyAt (refresh : Nat) : Bool :=
  (answers refresh).1.hasAddrs || (answers refresh).2.hasAddrs

/-- What the loop keeps after this many refreshes. -/
def loopAfter (refreshes : Nat) : DiscoveryLoop :=
  .afterRefreshes dnsRefresh ((List.range refreshes).map answers)

/-- The sleep computed after a refresh. -/
def sleepAfter (refresh : Nat) : Duration :=
  (loopAfter dnsRefresh answers (refresh + 1)).sleepFor

/-- Unhealthy refreshes in a row, the first of which follows the start of the
loop or a healthy refresh. -/
structure Outage (first failures : Nat) : Prop where
  begins : ∀ earlier, earlier + 1 = first → healthyAt answers earlier = true
  unhealthy : ∀ offset ≤ failures, healthyAt answers (first + offset) = false

/-- **Reference specification** of the sleeps of a run. -/
structure CadenceLaw : Prop where
  healthy : ∀ refresh, healthyAt answers refresh = true →
    sleepAfter dnsRefresh answers refresh = dnsRefresh
  /-- the first refresh of the outage has number zero here -/
  doubling : ∀ first failures, Outage answers first failures →
    sleepAfter dnsRefresh answers (first + failures) =
      min (Duration.fromSecs 2 * Nat.pow 2 failures) dnsRefresh
  bounds : ∀ refresh,
    min (Duration.fromSecs 2) dnsRefresh ≤ sleepAfter dnsRefresh answers refresh ∧
      sleepAfter dnsRefresh answers refresh ≤ dnsRefresh
  nondecreasing : ∀ earlier later, earlier ≤ later →
    (∀ refresh, earlier ≤ refresh → refresh ≤ later → healthyAt answers refresh = false) →
    sleepAfter dnsRefresh answers earlier ≤ sleepAfter dnsRefresh answers later
  /-- whatever came before it -/
  restart : ∀ first, Outage answers first 0 →
    sleepAfter dnsRefresh answers first = min (Duration.fromSecs 2) dnsRefresh

end Runs

section Cadence

variable {dnsRefresh : Duration} {answers : Nat → ResolveResult × ResolveResult}
  {first failures : Nat}

theorem loopAfter_succ (refreshes : Nat) :
    loopAfter dnsRefresh answers (refreshes + 1) =
      (loopAfter dnsRefresh answers refreshes).next dnsRefresh (answers refreshes) := by
  rw [loopAfter, List.range_succ, List.map_append, DiscoveryLoop.afterRefreshes,
    List.foldl_append]
  rfl

theorem sleepAfter_eq (refresh : Nat) :
    sleepAfter dnsRefresh answers refresh =
      computeNextInterval (loopAfter dnsRefresh answers refresh).sleepFor
        (loopAfter dnsRefresh answers refresh).lastHealthy (healthyAt answers refresh)
        dnsRefresh := by
  rw [sleepAfter, loopAfter_succ]
  rfl

/-- The loop remembers how the last refresh went. -/
theorem lastHealthy_loopAfter_succ (refresh : Nat) :
    (loopAfter dnsRefresh answers (refresh + 1)).lastHealthy = healthyAt answers refresh := by
  rw [loopAfter_succ]
  rfl

/-- When an outage begins the loop takes the last refresh to have been
healthy, be it the assumed one before the first. -/
theorem Outage.lastHealthy (outage : Outage answers first failures) :
    (loopAfter dnsRefresh answers first).lastHealthy = true := by
  cases first with
  | zero => rfl
  | succ earlier =>
      rw [lastHealthy_loopAfter_succ]
      exact outage.begins earlier rfl

theorem Outage.shorten {fewer : Nat} (outage : Outage answers first failures)
    (le : fewer ≤ failures) : Outage answers first fewer where
  begins := outage.begins
  unhealthy := fun offset bounded => outage.unhealthy offset (Nat.le_trans bounded le)

theorem exists_outage {refresh : Nat} (unhealthy : healthyAt answers refresh = false) :
    ∃ first failures, first + failures = refresh ∧ Outage answers first failures := by
  induction refresh with
  | zero =>
      refine ⟨0, 0, rfl, fun earlier impossible => ?_, fun offset bounded => ?_⟩
      · cases impossible
      · obtain rfl := Nat.le_zero.mp bounded
        exact unhealthy
  | succ earlier induction =>
      cases before : healthyAt answers earlier with
      | true =>
          refine ⟨earlier + 1, 0, rfl, fun other same => ?_, fun offset bounded => ?_⟩
          · obtain rfl := Nat.succ.inj same
            exact before
          · obtain rfl := Nat.le_zero.mp bounded
            exact unhealthy
      | false =>
          obtain ⟨first, failures, rfl, outage⟩ := induction before
          refine ⟨first, failures + 1, rfl, outage.begins, fun offset bounded => ?_⟩
          rcases Nat.le_succ_iff.mp bounded with inside | last
          · exact outage.unhealthy offset inside
          · rw [last]
            exact unhealthy

/-- A further unhealthy refresh doubles the sleep; saturation and the lower
bound make no difference. -/
theorem computeNextInterval_value (inRange : dnsRefresh ≤ Duration.maxValue) (steps : Nat) :
    computeNextInterval (CappedDoubling.value (Duration.fromSecs 2) dnsRefresh steps)
        false false dnsRefresh =
      CappedDoubling.value (Duration.fromSecs 2) dnsRefresh (steps + 1) := by
  have lower : min (Duration.fromSecs 2) dnsRefresh ≤
      CappedDoubling.value (Duration.fromSecs 2) dnsRefresh (steps + 1) :=
    CappedDoubling.value_zero_le (steps + 1)
  calc
    _ = max (min (min (CappedDoubling.value (Duration.fromSecs 2) dnsRefresh steps * 2)
          Duration.maxValue) dnsRefresh) (min (Duration.fromSecs 2) dnsRefresh) := rfl
    _ = max (CappedDoubling.value (Duration.fromSecs 2) dnsRefresh (steps + 1))
          (min (Duration.fromSecs 2) dnsRefresh) := by
      rw [← CappedDoubling.value_succ steps inRange]
    _ = CappedDoubling.value (Duration.fromSecs 2) dnsRefresh (steps + 1) :=
      Nat.max_eq_left lower

/-- The invariant of an outage: the sleep is the capped doubling of two
seconds. -/
theorem Outage.sleepAfter_eq_value (inRange : dnsRefresh ≤ Duration.maxValue)
    (outage : Outage answers first failures) :
    sleepAfter dnsRefresh answers (first + failures) =
      CappedDoubling.value (Duration.fromSecs 2) dnsRefresh failures := by
  induction failures with
  | zero =>
      have unhealthy : healthyAt answers first = false := outage.unhealthy 0 (Nat.le_refl 0)
      rw [CappedDoubling.value_zero, Nat.add_zero, sleepAfter_eq, unhealthy,
        outage.lastHealthy]
      rfl
  | succ failures induction =>
      have shorter : Outage answers first failures := outage.shorten (Nat.le_succ failures)
      have before : healthyAt answers (first + failures) = false :=
        shorter.unhealthy failures (Nat.le_refl _)
      have unhealthy : healthyAt answers (first + failures + 1) = false :=
        outage.unhealthy (failures + 1) (Nat.le_refl _)
      have previous : (loopAfter dnsRefresh answers (first + failures + 1)).sleepFor =
          CappedDoubling.value (Duration.fromSecs 2) dnsRefresh failures := induction shorter
      rw [← Nat.add_assoc, sleepAfter_eq, lastHealthy_loopAfter_succ, before, unhealthy,
        previous]
      exact computeNextInterval_value inRange failures

/-- The sleeps do not decrease from one unhealthy refresh to a later one of
the same outage. -/
theorem sleepAfter_le_of_unhealthy (inRange : dnsRefresh ≤ Duration.maxValue)
    {earlier later : Nat} (order : earlier ≤ later)
    (unhealthy : ∀ refresh, earlier ≤ refresh → refresh ≤ later →
      healthyAt answers refresh = false) :
    sleepAfter dnsRefresh answers earlier ≤ sleepAfter dnsRefresh answers later := by
  obtain ⟨first, failures, rfl, outage⟩ :=
    exists_outage (unhealthy earlier (Nat.le_refl earlier) order)
  obtain ⟨further, rfl⟩ := Nat.exists_eq_add_of_le order
  have extended : Outage answers first (failures + further) := by
    refine ⟨outage.begins, fun offset bounded => ?_⟩
    rcases Nat.le_total offset failures with inside | beyond
    · exact outage.unhealthy offset inside
    · exact unhealthy (first + offset) (by omega) (by omega)
  rw [Nat.add_assoc, outage.sleepAfter_eq_value inRange, extended.sleepAfter_eq_value inRange]
  exact CappedDoubling.value_monotone (Nat.le_add_right failures further)

/-- **The sleep schedule of the discovery loop**, for every sequence of
answers. -/
theorem cadenceLaw_of_run (dnsRefresh : Duration)
    (answers : Nat → ResolveResult × ResolveResult)
    (inRange : dnsRefresh ≤ Duration.maxValue) : CadenceLaw dnsRefresh answers where
  healthy refresh found := by
    rw [sleepAfter_eq, found]
    rfl
  doubling first failures outage := outage.sleepAfter_eq_value inRange
  bounds refresh := by
    rw [sleepAfter_eq]
    exact computeNextInterval_bounds
  nondecreasing earlier later := sleepAfter_le_of_unhealthy inRange
  restart first outage := by
    rw [← CappedDoubling.value_zero]
    exact outage.sleepAfter_eq_value inRange

end Cadence

/-- Two outages, of three refreshes and of one. -/
def twoOutages (refresh : Nat) : ResolveResult × ResolveResult :=
  if refresh = 3 then (.resolved [.sampleGpu], .failed) else (.failed, .resolved [])

/-- The second outage starts over from two seconds. -/
theorem cadenceLaw_twoOutages :
    (List.range 5).map (sleepAfter (.fromSecs 30) twoOutages) =
        [.fromSecs 2, .fromSecs 4, .fromSecs 8, .fromSecs 30, .fromSecs 2] ∧
      CadenceLaw (.fromSecs 30) twoOutages :=
  ⟨by decide, cadenceLaw_of_run _ _ (by decide)⟩

end BgeRouter
