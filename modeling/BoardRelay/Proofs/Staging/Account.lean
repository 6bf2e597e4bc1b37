/-
  BoardRelay.Proofs.Staging.Account
  ────────────────────────────────
  The account of a staging area.  What is taken from the budget is what the
  holdings are counted with and what calls on their way owe; every turn of
  every call keeps that (`Task.Moves.account`), whatever fails in it, and so
  does every run (`every_size_accounted`).
-/
import BoardRelay.Proofs.Disk.Operations
import BoardRelay.Proofs.Lists
import BoardRelay.Proofs.Staging.Calls

namespace BoardRelay.Staging

/-! ## §1. Holdings. -/

namespace Area

/-- What the holdings are counted with. -/
def counted (area : Area) : Nat :=
  (area.holdings.map fun entry => entry.2.size.toNat).sum

/-- Whether no path has two holdings. -/
def Once (area : Area) : Prop :=
  (area.holdings.map (·.1)).Nodup

theorem holding?_withHolding (path : Disk.Path) (holding : Holding) (area : Area) :
    (area.withHolding path holding).holding? path = some holding :=
  List.lookup_cons_self

theorem holding?_withHolding_of_ne {path other : Disk.Path} (h : other ≠ path) (holding : Holding)
    (area : Area) : (area.withHolding path holding).holding? other = area.holding? other := by
  rw [holding?, withHolding, List.lookup_cons, beq_false_of_ne h]
  exact Disk.lookup_filter_ne area.holdings h

theorem holding?_withoutHolding (path : Disk.Path) (area : Area) :
    (area.withoutHolding path).holding? path = none := by
  rw [holding?, List.lookup_eq_none_iff]
  intro entry hentry
  rw [bne_iff_ne]
  exact (bne_iff_ne.mp (List.mem_filter.mp hentry).2).symm

theorem holding?_withoutHolding_of_ne {path other : Disk.Path} (h : other ≠ path) (area : Area) :
    (area.withoutHolding path).holding? other = area.holding? other :=
  Disk.lookup_filter_ne area.holdings h

theorem Once.withoutHolding {area : Area} (h : area.Once) (path : Disk.Path) :
    (area.withoutHolding path).Once :=
  List.Nodup.sublist (List.filter_sublist.map _) h

/-- A path that is noted anew is still noted once. -/
theorem Once.withHolding {area : Area} (h : area.Once) (path : Disk.Path) (holding : Holding) :
    (area.withHolding path holding).Once := by
  refine List.nodup_cons.mpr ⟨fun hmem => ?_, h.withoutHolding path⟩
  obtain ⟨entry, hentry, heq⟩ := List.mem_map.mp hmem
  exact bne_iff_ne.mp (List.mem_filter.mp hentry).2 heq

/-- A sum over all holdings is that over all but one path, and what stands
there. -/
theorem Once.sum_eq {area : Area} (h : area.Once) (path : Disk.Path) (f : Holding → Nat) :
    (area.holdings.map fun entry => f entry.2).sum =
      ((area.withoutHolding path).holdings.map fun entry => f entry.2).sum +
        ((area.holding? path).map f).getD 0 := by
  unfold Once at h
  unfold Area.withoutHolding holding?
  generalize area.holdings = entries at h
  induction entries with
  | nil => rfl
  | cons entry entries ih =>
    obtain ⟨key, holding⟩ := entry
    obtain ⟨hkey, hkeys⟩ := List.nodup_cons.mp h
    have ih := ih hkeys
    by_cases heq : key = path
    · -- the path is not there a second time
      subst heq
      have hnone : entries.lookup key = none := by
        rw [List.lookup_eq_none_iff]
        intro entry hentry
        rw [bne_iff_ne]
        intro heq
        exact hkey (List.mem_map.mpr ⟨entry, hentry, heq.symm⟩)
      rw [hnone, Option.map_none, Option.getD_none, Nat.add_zero] at ih
      rw [List.filter_cons_of_neg (by simp), List.lookup_cons_self, List.map_cons, List.sum_cons,
        ih, Option.map_some, Option.getD_some, Nat.add_comm]
    · rw [List.filter_cons_of_pos (by simpa using heq), List.lookup_cons,
        beq_false_of_ne (Ne.symm heq), List.map_cons, List.map_cons, List.sum_cons, List.sum_cons,
        ih, Nat.add_assoc]

/-- Letting a path go takes its size off the count. -/
theorem Once.counted_withoutHolding {area : Area} (h : area.Once) {path : Disk.Path}
    {holding : Holding} (hholding : area.holding? path = some holding) :
    (area.withoutHolding path).counted + holding.size.toNat = area.counted := by
  have hsum := h.sum_eq path fun holding => holding.size.toNat
  rw [hholding] at hsum
  exact hsum.symm

/-- Noting a path puts its size in the place of what was counted there before. -/
theorem Once.counted_withHolding {area : Area} (h : area.Once) (path : Disk.Path)
    (holding : Holding) :
    (area.withHolding path holding).counted +
        ((area.holding? path).map fun holding => holding.size.toNat).getD 0 =
      area.counted + holding.size.toNat := by
  have hsum := h.sum_eq path fun holding => holding.size.toNat
  have hcons : (area.withHolding path holding).counted =
      holding.size.toNat + (area.withoutHolding path).counted := List.sum_cons
  unfold counted at hcons ⊢
  omega

/-- Who holds a file too does not change what it is counted with. -/
theorem Once.counted_recount {area : Area} (h : area.Once) {path : Disk.Path} {holding : Holding}
    (hholding : area.holding? path = some holding) (holders : Nat) :
    (area.withHolding path { holding with holders }).counted = area.counted := by
  have hcounted := h.counted_withHolding path { holding with holders }
  rw [hholding] at hcounted
  exact Nat.add_right_cancel hcounted

end Area

/-! ## §2. One turn. -/

namespace Task

/-- The size that a task has taken from the budget, if no holding is counted
with it. -/
def owes : Task → Nat
  | .writing _ content => (sizeOf content).toNat
  | .settling _ content _ => (sizeOf content).toNat
  | .givingBack size _ _ => size.toNat
  | _ => 0

/-- Whether it is settled that a task succeeds. -/
def granted : Task → Bool
  | .givingBack _ _ result => result.isOk
  | .clearing _ result => result.isOk
  | .done result => result.isOk
  | _ => false

/-- Whether a task is about to let a file go. -/
def frees : Task → Bool
  | .freeing _ => true
  | _ => false

variable {offer : Option Text.Bytes} {struck : Option Disk.Fault} {area area' : Area}
  {disk disk' : Disk} {task task' : Task}

/-- What is taken changes by what is counted and what is owed. -/
theorem Moves.account (h : Moves offer struck area disk task task' area' disk') (honce : area.Once)
    (howes : task.owes ≤ area.ledger.loaded.toNat) :
    area'.ledger.loaded.toNat + area.counted + task.owes =
      area.ledger.loaded.toNat + area'.counted + task'.owes := by
  -- Only the steps that take or give back a size, or put in or take out a holding, have a sum to
  -- check.
  cases h with
  | rests | missing | unfetched | fetched | refused | cleared | discarded => rfl
  | unwritten | written | unmoved => rfl
  | found hholding => rw [honce.counted_recount hholding]; rfl
  | left _ hholding => rw [honce.counted_recount hholding]; rfl
  | shared _ hholding => rw [honce.counted_recount hholding]; rfl
  -- the size is taken, and owed until the holding that counts it is put in
  | @reserved locator content hfits =>
    show (area.ledger.take (sizeOf content)).loaded.toNat + area.counted + 0 =
      area.ledger.loaded.toNat + area.counted + (sizeOf content).toNat
    rw [Ledger.toNat_take hfits]
    omega
  -- the holding now counts what the call owed
  | @settled locator content part _ hrename hnone =>
    have hcounted := honce.counted_withHolding (area.place locator) ⟨sizeOf content, 1⟩
    rw [hnone] at hcounted
    show area.ledger.loaded.toNat + area.counted + (sizeOf content).toNat =
      area.ledger.loaded.toNat + (area.withHolding _ _).counted + 0
    rw [Nat.add_zero, Nat.add_assoc, ← hcounted]
    rfl
  | @gaveBack size result =>
    show (area.ledger.release size).loaded.toNat + area.counted + size.toNat =
      area.ledger.loaded.toNat + area.counted + 0
    have hsize : size.toNat ≤ area.ledger.loaded.toNat := howes
    rw [Ledger.toNat_release]
    omega
  | @owesClearing size litter result =>
    show (area.ledger.release size).loaded.toNat + area.counted + size.toNat =
      area.ledger.loaded.toNat + area.counted + 0
    have hsize : size.toNat ≤ area.ledger.loaded.toNat := howes
    rw [Ledger.toNat_release]
    omega
  -- the size that the holding counted is owed by the call that took it out
  | @leftLast locator holding result _ hvideo hholding =>
    have hcounted := honce.counted_withoutHolding hholding
    show area.ledger.loaded.toNat + area.counted + 0 =
      area.ledger.loaded.toNat + (area.withoutHolding _).counted + holding.size.toNat
    omega

/-- No step notes a path twice. -/
theorem Moves.once (h : Moves offer struck area disk task task' area' disk') (honce : area.Once) :
    area'.Once := by
  -- only steps that note or drop a holding touch the list
  cases h with
  | found => exact honce.withHolding _ _
  | left => exact honce.withHolding _ _
  | shared => exact honce.withHolding _ _
  | settled => exact honce.withHolding _ _
  | leftLast => exact honce.withoutHolding _
  | _ => exact honce

/-- Only a reservation takes from the budget, and it leaves some. -/
theorem Moves.loaded_lt (h : Moves offer struck area disk task task' area' disk') :
    area'.ledger.budget = area.ledger.budget ∧
      (area'.ledger.loaded.toNat ≤ area.ledger.loaded.toNat ∨
        area'.ledger.loaded.toNat < area.ledger.budget.toNat) := by
  cases h with
  -- the one step that loads more, and it is made where the size fits
  | @reserved locator content hfits =>
    refine ⟨rfl, .inr ?_⟩
    show (area.ledger.take (sizeOf content)).loaded.toNat < _
    rw [Ledger.toNat_take hfits]
    exact Ledger.fits_iff.mp hfits
  | @gaveBack size result =>
    refine ⟨rfl, .inl ?_⟩
    show (area.ledger.release size).loaded.toNat ≤ _
    rw [Ledger.toNat_release]
    exact Nat.sub_le _ _
  | @owesClearing size litter result =>
    refine ⟨rfl, .inl ?_⟩
    show (area.ledger.release size).loaded.toNat ≤ _
    rw [Ledger.toNat_release]
    exact Nat.sub_le _ _
  | _ => exact ⟨rfl, .inl (Nat.le_refl _)⟩

/-- A task that lets no file go has left the holdings alone as long as its
success is not settled. -/
theorem Moves.holdings_eq (h : Moves offer struck area disk task task' area' disk')
    (hfrees : task.frees = false) (hgranted : task'.granted = false) :
    task.granted = false ∧ area'.holdings = area.holdings := by
  cases h with
  | rests => exact ⟨hgranted, rfl⟩
  | found => cases hgranted
  | shared => cases hgranted
  | settled => cases hgranted
  | gaveBack => exact ⟨hgranted, rfl⟩
  | owesClearing => exact ⟨hgranted, rfl⟩
  | cleared => exact ⟨hgranted, rfl⟩
  | discarded => cases hfrees
  | left => cases hfrees
  | leftLast => cases hfrees
  | _ => exact ⟨rfl, rfl⟩

theorem Moves.frees_eq (h : Moves offer struck area disk task task' area' disk')
    (hfrees : task.frees = false) : task'.frees = false := by
  cases h with
  | rests => exact hfrees
  | _ => rfl

end Task

/-! ## §3. Every run. -/

/-- Whether a call that is to hold a file has, unless it succeeds, taken from
the budget what it owes and left the holdings alone. -/
def Call.Honest (call : Call) : Prop :=
  call.wish.acquires = true → call.task.frees = false ∧
    (call.task.granted = false → call.taken = call.task.owes ∧ call.marked = false)

namespace Yard

/-- What the calls on their way owe. -/
def owed (yard : Yard) : Nat :=
  (yard.calls.map fun call => call.task.owes).sum

/-- Whether everything that is taken from the budget is accounted for. -/
structure Accounted (budget : UInt64) (yard : Yard) : Prop where
  once : yard.area.Once
  loaded_eq : yard.area.ledger.loaded.toNat = yard.area.counted + yard.owed
  budget_eq : yard.area.ledger.budget = budget
  loaded_lt : yard.area.ledger.loaded.toNat = 0 ∨ yard.area.ledger.loaded.toNat < budget.toNat
  honest : ∀ call ∈ yard.calls, call.Honest

/-- Nothing is counted or taken before the first call. -/
theorem accounted_opening (root : Disk.Path) (budget : UInt64) (disk : Disk) :
    (opening root budget disk).Accounted budget := by
  have hloaded : (opening root budget disk).area.ledger.loaded.toNat = 0 := UInt64.toNat_zero
  exact ⟨List.nodup_nil, hloaded, rfl, .inl hloaded, fun _ hcall => absurd hcall List.not_mem_nil⟩

theorem honest_ofWish (wish : Wish) : (Call.ofWish wish).Honest := by
  intro hacquires
  cases wish with
  | save locator => exact ⟨rfl, fun _ => ⟨rfl, rfl⟩⟩
  | stage locator content => exact ⟨rfl, fun _ => ⟨rfl, rfl⟩⟩
  | free locator => cases hacquires

theorem owes_le_owed {yard : Yard} {call : Call} (hcall : call ∈ yard.calls) :
    call.task.owes ≤ yard.owed :=
  List.le_sum_of_mem (List.mem_map_of_mem hcall)

/-- What one call owes is taken on the ledger. -/
theorem Accounted.owes_le {budget : UInt64} {yard : Yard} (h : yard.Accounted budget)
    {call : Call} (hcall : call ∈ yard.calls) :
    call.task.owes ≤ yard.area.ledger.loaded.toNat := by
  have howed := owes_le_owed hcall
  rw [h.loaded_eq]
  omega

/-- A call stays honest in its turn, since what is taken and counted changes
by what it owes. -/
theorem Accounted.honest_stepped {budget : UInt64} {yard : Yard} (h : yard.Accounted budget)
    {call : Call} (hcall : call ∈ yard.calls) {offer : Option Text.Bytes}
    {struck : Option Disk.Fault} {task : Task} {area : Area} {disk : Disk}
    (hmoves : Task.Moves offer struck yard.area yard.disk call.task task area disk) :
    (call.stepped task yard.area area).Honest := by
  intro hacquires
  obtain ⟨hfrees, hhonest⟩ := h.honest call hcall hacquires
  refine ⟨hmoves.frees_eq hfrees, fun hgranted => ?_⟩
  -- what is not settled after the turn was not before, and no holding has changed
  obtain ⟨hbefore, hholdings⟩ := hmoves.holdings_eq hfrees hgranted
  obtain ⟨htaken, hmarked⟩ := hhonest hbefore
  have haccount := hmoves.account h.once (h.owes_le hcall)
  have hcounted : area.counted = yard.area.counted := by
    rw [Area.counted, hholdings, Area.counted]
  refine ⟨?_, ?_⟩
  · show call.taken + (area.ledger.loaded.toNat - yard.area.ledger.loaded.toNat) = task.owes
    omega
  · show (call.marked || area.holdings != yard.area.holdings) = false
    rw [hmarked, hholdings, bne_self_eq_false]
    rfl

/-- **Every event keeps the account**, however the steps of the calls are
mixed. -/
theorem Moves.accounted {budget : UInt64} {yard next : Yard} {event : Event}
    (hmoves : yard.Moves event next) (h : yard.Accounted budget) : next.Accounted budget := by
  cases hmoves with
  | idle => exact h
  | began wish =>
    refine ⟨h.once, ?_, h.budget_eq, h.loaded_lt, fun call hcall => ?_⟩
    · -- A wish owes nothing before its first step.
      have hnothing : (Call.ofWish wish).task.owes = 0 := by cases wish <;> rfl
      rw [owed, List.map_append, List.sum_append, List.map_singleton, List.sum_singleton, hnothing]
      exact h.loaded_eq
    · rcases List.mem_append.mp hcall with hcall | hcall
      · exact h.honest call hcall
      · rw [List.mem_singleton.mp hcall]
        exact honest_ofWish wish
  | disturbed disk => exact ⟨h.once, h.loaded_eq, h.budget_eq, h.loaded_lt, h.honest⟩
  | @turned _ position call task area disk hposition hcall hmoves =>
    have hmem := List.mem_of_getElem? hcall
    obtain ⟨hbudget, hloaded⟩ := hmoves.loaded_lt
    refine ⟨hmoves.once h.once, ?_, hbudget.trans h.budget_eq, ?_, fun other hother => ?_⟩
    · -- the step settles its own account, and the other calls owe what they did
      have haccount := hmoves.account h.once (h.owes_le hmem)
      have hsum := sum_map_set (fun call => call.task.owes) hcall
        (call.stepped task yard.area area)
      have hbefore := h.loaded_eq
      unfold owed at hbefore ⊢
      dsimp only [Call.stepped] at hsum ⊢
      omega
    · have hbefore := h.loaded_lt
      rw [h.budget_eq] at hloaded
      show area.ledger.loaded.toNat = 0 ∨ area.ledger.loaded.toNat < budget.toNat
      omega
    · rcases List.mem_or_eq_of_mem_set hother with hother | rfl
      · exact h.honest other hother
      · exact h.honest_stepped hmem hmoves

theorem Accounted.after {budget : UInt64} {yard : Yard} (h : yard.Accounted budget)
    (events : List Event) : (yard.after events).Accounted budget := by
  -- Induction on the events; the yard changes with each of them.
  induction events generalizing yard with
  | nil => exact h
  | cons event events ih => exact ih ((yard.moves_handle event).accounted h)

end Yard

/-- At every point of every run of calls, whatever fails, what is taken from
the budget is what the holdings are counted with and what the calls on their
way owe; it is nothing or less than the budget; whoever is about to give a
size back gives no more than is taken; and a call to hold a file that ended
in an error has taken nothing, all in all, and never changed a holding. -/
theorem every_size_accounted (root : Disk.Path) (budget : UInt64) (disk : Disk)
    (events : List Event) :
    let yard := (Yard.opening root budget disk).after events
    yard.area.ledger.loaded.toNat = yard.area.counted + yard.owed ∧
      (yard.area.ledger.loaded = 0 ∨ yard.area.ledger.loaded < budget) ∧
      (∀ call ∈ yard.calls, ∀ size litter result, call.task = .givingBack size litter result →
        size ≤ yard.area.ledger.loaded) ∧
      ∀ call ∈ yard.calls, call.wish.acquires = true → ∀ e, call.task = .done (.error e) →
        call.taken = 0 ∧ call.marked = false := by
  intro yard
  have h : yard.Accounted budget := (Yard.accounted_opening root budget disk).after events
  refine ⟨h.loaded_eq, ?_, ?_, ?_⟩
  · rw [← UInt64.toNat_inj, UInt64.lt_iff_toNat_lt]
    exact h.loaded_lt
  · intro call hcall size litter result htask
    -- one call owes no more than all of them together
    have howes := h.owes_le hcall
    rw [htask] at howes
    exact UInt64.le_iff_toNat_le.mpr howes
  · intro call hcall hacquires e htask
    obtain ⟨-, hhonest⟩ := h.honest call hcall hacquires
    rw [htask] at hhonest
    exact hhonest rfl

end BoardRelay.Staging
