import BgeRouter.PoolWriters

/-!
# Who decides which addresses a pool lists

Membership belongs to discovery as long as no poll stores a snapshot it
computed from outdated address lists.  A poll reads the snapshot and stores
its update in two steps, so a refresh may be stored in between; the poll then
undoes it, and the pool lists removed addresses until the next refresh.
-/

namespace BgeRouter

open PartialRuns

/-- Each pool lists the last stored answer. -/
def MembershipIsResolved (state : RouterState) : Prop :=
  ∀ poolType, addresses (state.snapshot.pool poolType) = state.resolvedSet poolType

/-- When a poll stores, the snapshot it had loaded lists the same addresses as
the one it replaces. -/
def PollStoresCurrentAddresses (state : RouterState) (action : WriterAction) : Prop :=
  action = .pollStore → ∀ base, state.pool.loaded .health = some base →
    ∀ poolType, addresses (base.pool poolType) =
      addresses (state.snapshot.pool poolType)

/-- Membership, with the same for the snapshot that a refresh under way has
loaded. -/
def DiscoveryOwnsMembership (state : RouterState) : Prop :=
  state.pool.Settled
    (fun snapshot => ∀ poolType,
      addresses (snapshot.pool poolType) = state.resolvedSet poolType)
    (fun task base => task = .discovery → ∀ poolType,
      addresses (base.pool poolType) = state.resolvedSet poolType)

theorem initial_ownsMembership : DiscoveryOwnsMembership .initial where
  current := by
    intro poolType
    cases poolType <;> rfl
  loaded := by
    intro task base loaded
    cases loaded

theorem DiscoveryOwnsMembership.step {state next : RouterState} {action : WriterAction}
    (owns : DiscoveryOwnsMembership state)
    (enabled : writerStep state action = some next)
    (guarded : PollStoresCurrentAddresses state action) :
    DiscoveryOwnsMembership next := by
  cases writerStep_effect enabled with
  | quiet later pool answers history =>
      simpa only [DiscoveryOwnsMembership, pool, history] using owns
  | refreshLoad gpuResult cpuResult idle clock pool history =>
      simp only [DiscoveryOwnsMembership, pool, history]
      exact owns.load fun current _ => current
  | refreshStore clock pool answers history =>
      obtain ⟨base, loaded, current, rest⟩ := LoadStoreCell.store_eq_some_iff.mp pool
      constructor
      · intro poolType
        have baseAddresses := owns.loaded .discovery base loaded rfl poolType
        rw [current, merge_pool, addresses_mergePool, baseAddresses, history]
        rfl
      · rintro task other otherLoaded rfl
        rw [rest] at otherLoaded
        simp at otherLoaded
  | pollLoad results clock pool answers history =>
      simp only [DiscoveryOwnsMembership, pool, history]
      exact owns.load fun _ impossible => by cases impossible
  | pollStore clock pool answers history =>
      simp only [DiscoveryOwnsMembership, history]
      apply owns.store pool
      intro base loaded _ poolType
      rw [applyUpdates_pool, addresses_updatePool]
      exact (guarded rfl base loaded poolType).trans (owns.current poolType)
  | tripRcu call addr deadline pending clock pool answers history =>
      simp only [DiscoveryOwnsMembership, pool, history]
      apply owns.modify
      intro current poolType
      rw [tripRcu_pool, addresses_tripPool]
      exact current poolType

/-- A poll that stores other addresses than the current ones breaks membership
at once. -/
theorem pollStoresCurrent_of_membership {state next : RouterState}
    {action : WriterAction} (owns : DiscoveryOwnsMembership state)
    (enabled : writerStep state action = some next)
    (membership : MembershipIsResolved next) :
    PollStoresCurrentAddresses state action := by
  rintro rfl base loaded poolType
  obtain ⟨stored, stores, -, snapshot, history⟩ := pollStore_of_loaded loaded
  obtain rfl := Option.some.inj (enabled.symm.trans stores)
  have after := membership poolType
  rw [snapshot, applyUpdates_pool, addresses_updatePool, history] at after
  exact after.trans (owns.current poolType).symm

/-- Membership is decided by discovery alone throughout a run exactly when
every poll of the run stores the addresses that are current. -/
theorem membershipIsResolved_throughout_iff (actions : List WriterAction) :
    Throughout writerStep MembershipIsResolved .initial actions ↔
      Along writerStep PollStoresCurrentAddresses .initial actions :=
  throughout_iff_along DiscoveryOwnsMembership
    (fun _ owns => owns.current)
    (fun _ _ _ owns enabled guarded => owns.step enabled guarded)
    (fun _ _ _ owns enabled membership =>
      pollStoresCurrent_of_membership owns enabled membership)
    initial_ownsMembership

/-- A refresh stores between the final load and the store of a poll, and the
poll brings back the address that DNS dropped. -/
theorem pollStore_resurrects_address :
    ¬ ∀ (actions : List WriterAction) (state : RouterState),
      run writerStep .initial actions = some state → MembershipIsResolved state := by
  intro owned
  have membership := owned
    (pollInFlight ++ [.refreshLoad (.resolved []) .failed, .refreshStore, .pollStore])
    _ rfl .gpu
  exact absurd membership (by decide)

end BgeRouter
