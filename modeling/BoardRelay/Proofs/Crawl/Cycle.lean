/-
  BoardRelay.Proofs.Crawl.Cycle
  ────────────────────────────────
  The account of a whole cycle: its trace has the sends of its errands, and
  when all errands are settled these are the sends that the store's
  subscriptions call for (`Cycle.Accounted.sends_perm`,
  `Cycle.promised_opening`).
-/
import BoardRelay.Proofs.Crawl.Errand
import BoardRelay.Proofs.Lists

namespace BoardRelay.Crawl

variable {σ : Type}

/-! ## §1. Steps of a cycle. -/

/-- A step of a cycle is a step of one errand, under the cycle's cursor and
width; the others stand still. -/
theorem Cycle.step_eq_some_iff {site : Site} {registry : Registry σ} {state : σ}
    {position : Nat} {step : Step} {cycle next : Cycle} :
    cycle.step site registry state position step = some next ↔
      ∃ errand after trace, cycle.errands[position]? = some errand ∧
        errand.Moves site registry state cycle.cursor cycle.width step after trace ∧
        next = { cycle with
          errands := cycle.errands.set position after
          trace := cycle.trace.append trace } := by
  constructor
  · intro h
    simp only [Cycle.step, Option.bind_eq_bind, Option.bind_eq_some_iff, Option.pure_def,
      Option.some.injEq] at h
    obtain ⟨errand, herrand, ⟨after, trace⟩, hstep, rfl⟩ := h
    exact ⟨errand, after, trace, herrand, Errand.step_eq_some_iff.mp hstep, rfl⟩
  · rintro ⟨errand, after, trace, herrand, hmoves, rfl⟩
    simp only [Cycle.step, herrand, Option.bind_eq_bind, Option.bind_some,
      Errand.step_eq_some_iff.mpr hmoves, Option.pure_def]

/-! ## §2. Boards. -/

/-- Putting a name in its place adds that name only. -/
theorem mem_insertName {name other : String} {names : List String} :
    other ∈ insertName name names ↔ other = name ∨ other ∈ names := by
  induction names with
  | nil => simp [insertName]
  | cons first names ih =>
    rw [insertName]
    split
    · next heq => simp [heq]
    · split
      · exact List.mem_cons
      · rw [List.mem_cons, List.mem_cons, ih]
        exact or_left_comm

/-- Names in ascending order stay so, and each is there once. -/
theorem pairwise_insertName {name : String} {names : List String}
    (h : names.Pairwise (· < ·)) : (insertName name names).Pairwise (· < ·) := by
  induction names with
  | nil => exact List.pairwise_singleton _ _
  | cons first names ih =>
    obtain ⟨hfirst, hnames⟩ := List.pairwise_cons.mp h
    rw [insertName]
    -- the name is there, goes before the first, or into the rest
    split
    · exact h
    · next hne =>
      split
      · next hlt =>
        refine List.pairwise_cons.mpr ⟨fun other hother => ?_, h⟩
        rcases List.mem_cons.mp hother with rfl | hrest
        · exact hlt
        · exact String.lt_trans hlt (hfirst other hrest)
      · next hge =>
        have hlt : first < name := Std.lt_of_le_of_ne (String.not_lt.mp hge) (Ne.symm hne)
        refine List.pairwise_cons.mpr ⟨fun other hother => ?_, ih hnames⟩
        rcases mem_insertName.mp hother with rfl | hrest
        · exact hlt
        · exact hfirst other hrest

/-- The boards of a cycle are those of the subscriptions, each once. -/
theorem boardsOf_perm (subscriptions : List Subscription) :
    (boardsOf subscriptions).Perm (subscriptions.map (·.board)).dedup := by
  have hordered : (boardsOf subscriptions).Pairwise (· < ·) := by
    induction subscriptions with
    | nil => exact List.Pairwise.nil
    | cons s subscriptions ih => exact pairwise_insertName ih
  have hmem : ∀ board, board ∈ boardsOf subscriptions ↔
      board ∈ (subscriptions.map (·.board)).dedup := by
    intro board
    rw [List.mem_dedup]
    clear hordered
    induction subscriptions with
    | nil => rfl
    | cons s subscriptions ih =>
      show board ∈ insertName s.board (boardsOf subscriptions) ↔ _
      rw [mem_insertName, ih, List.map_cons, List.mem_cons]
  -- Both lists have the same members; in ascending order none comes twice.
  refine (List.perm_ext_iff_of_nodup ?_ (List.nodup_dedup _)).mpr hmem
  refine hordered.imp fun {first second} hlt heq => ?_
  exact String.lt_irrefl second (by rwa [heq] at hlt)

/-! ## §3. The account of a cycle. -/

/-- What the errands of a cycle have to send. -/
def Cycle.promised (site : Site) (known : Int64 → List User) (cycle : Cycle) : List Send :=
  cycle.errands.flatMap (·.promised site known cycle.cursor)

/-- A bound on the steps that a cycle still makes. -/
def Cycle.todo (site : Site) (cycle : Cycle) : Nat :=
  (cycle.errands.map (·.todo site)).sum

/-- A cycle that has lost nothing. -/
structure Cycle.Accounted (site : Site) (known : Int64 → List User) (cycle : Cycle) : Prop where
  width : 0 < cycle.width
  errands : ∀ errand ∈ cycle.errands, errand.Accounted site known cycle.cursor
  sends : cycle.trace.sends.Perm (cycle.errands.flatMap (·.sent))

/-- What an errand is promised hangs on its board and its subscriptions alone. -/
theorem Errand.promised_eq {site : Site} {known : Int64 → List User} {cursor : UInt64}
    {errand next : Errand} (hboard : next.board = errand.board)
    (hsubscriptions : next.subscriptions = errand.subscriptions) :
    next.promised site known cursor = errand.promised site known cursor := by
  rw [promised, promised, hboard, hsubscriptions]

/-- So no step changes what a cycle has to send. -/
theorem Cycle.promised_step {site : Site} {registry : Registry σ} {state : σ}
    {known : Int64 → List User} {position : Nat} {step : Step} {cycle next : Cycle}
    (h : cycle.step site registry state position step = some next) :
    next.promised site known = cycle.promised site known := by
  obtain ⟨errand, after, trace, herrand, hmoves, rfl⟩ := Cycle.step_eq_some_iff.mp h
  have hboard := hmoves.board_eq
  rw [promised, promised, List.flatMap_def, List.flatMap_def]
  exact congrArg List.flatten
    (map_set_of_eq herrand (Errand.promised_eq hboard.1 hboard.2))

/-- Each step leaves a cycle less to do. -/
theorem Cycle.todo_step {site : Site} {registry : Registry σ} {state : σ} {position : Nat}
    {step : Step} {cycle next : Cycle}
    (h : cycle.step site registry state position step = some next) :
    next.todo site < cycle.todo site := by
  obtain ⟨errand, after, trace, herrand, hmoves, rfl⟩ := Cycle.step_eq_some_iff.mp h
  have hless : after.todo site + 1 ≤ errand.todo site := hmoves.todo_lt
  exact sum_map_set_le (f := (·.todo site)) herrand hless

/-- Each step keeps the account. -/
theorem Cycle.Accounted.step {site : Site} {registry : Registry σ} {state : σ} {position : Nat}
    {step : Step} {cycle next : Cycle} (hsite : site.Lives)
    (haccounted : cycle.Accounted site (registry.known state))
    (h : cycle.step site registry state position step = some next) :
    next.Accounted site (registry.known state) := by
  obtain ⟨errand, after, trace, herrand, hmoves, rfl⟩ := Cycle.step_eq_some_iff.mp h
  have hafter := hmoves.accounted hsite (haccounted.errands _ (List.mem_of_getElem? herrand))
  have hsent := hmoves.sent_eq hafter.ne_dead
  refine ⟨haccounted.width, fun other hother => ?_, ?_⟩
  · rcases List.mem_or_eq_of_mem_set hother with hold | rfl
    · exact haccounted.errands other hold
    · exact hafter
  · show (cycle.trace.sends ++ trace.sends).Perm _
    refine (haccounted.sends.append_right trace.sends).trans ?_
    have hbefore : (cycle.errands.map (·.sent))[position]? = some errand.sent := by
      rw [List.getElem?_map, herrand]
      rfl
    -- The trace gains what the one errand gains that took the step.
    have hgain := perm_flatten_set trace.sends [] hbefore
      (.of_eq (by rw [← hsent, List.append_nil]))
    rw [List.append_nil, ← List.map_set] at hgain
    rw [List.flatMap_def, List.flatMap_def]
    exact hgain.symm

/-- Until a cycle is settled, one of its steps can be made. -/
theorem Cycle.exists_step (site : Site) (registry : Registry σ) (state : σ) {cycle : Cycle}
    (hwidth : 0 < cycle.width) (hsane : ∀ errand ∈ cycle.errands, errand.Sane)
    (hopen : ¬ cycle.isSettled) :
    ∃ position step next, cycle.step site registry state position step = some next := by
  -- a cycle that is not settled has an errand that is not
  obtain ⟨errand, hmem, herrand⟩ : ∃ errand ∈ cycle.errands, ¬ errand.isSettled := by
    simpa [isSettled] using hopen
  obtain ⟨step, after, trace, hmoves⟩ :=
    (hsane errand hmem).exists_moves site registry state cycle.cursor hwidth herrand
  obtain ⟨position, hposition⟩ := List.getElem?_of_mem hmem
  exact ⟨position, step, _, Cycle.step_eq_some_iff.mpr ⟨_, _, _, hposition, hmoves, rfl⟩⟩

/-- A cycle that has lost nothing never gets stuck. -/
theorem Cycle.Accounted.exists_step {site : Site} {registry : Registry σ} {state : σ}
    {cycle : Cycle} (haccounted : cycle.Accounted site (registry.known state))
    (hopen : ¬ cycle.isSettled) :
    ∃ position step next, cycle.step site registry state position step = some next :=
  Cycle.exists_step site registry state haccounted.width
    (fun errand herrand => (haccounted.errands errand herrand).sane) hopen

/-! ## §4. The beginning of a cycle. -/

/-- A registry whose first reads tell of a store; the users of a
subscription may fail to be looked up, but are never wrong. -/
structure Registry.Reads (registry : Registry σ) (state : σ) (store : Store) : Prop where
  cursor : registry.cursor state = .ok store.cursor
  subscriptions : registry.subscriptions state = .ok store.subscriptions
  subscribers : ∀ id users, registry.subscribers id state = .ok users →
    users = store.subscribersOf id

/-- Whether the users of a subscription can be looked up. -/
def Registry.answers (registry : Registry σ) (state : σ) (id : Int64) : Bool :=
  (registry.subscribers id state).isOk

/-- What a registry knows are the users of the store, where it can look them
up. -/
theorem Registry.Reads.known_eq {registry : Registry σ} {state : σ} {store : Store}
    (hreads : registry.Reads state store) (id : Int64) : registry.known state id =
      if registry.answers state id then store.subscribersOf id else [] := by
  rw [known, answers]
  cases hfound : registry.subscribers id state with
  | error e => rfl
  | ok users => exact hreads.subscribers id users hfound

/-- A cycle that begins has an errand for each board, still to begin. -/
theorem Cycle.of_start {registry : Registry σ} {width : Nat} {state : σ} {cycle : Cycle}
    (h : start registry width state = .ok cycle) : ∃ cursor subscriptions,
      registry.cursor state = .ok cursor ∧ registry.subscriptions state = .ok subscriptions ∧
      cycle = ⟨cursor, max 1 width, (boardsOf subscriptions).map (errandOf subscriptions),
        .none⟩ := by
  -- a registry that fails at either read lets no cycle begin
  cases hcursor : registry.cursor state with
  | error e => rw [start, hcursor] at h; cases h
  | ok cursor =>
    cases hsubscriptions : registry.subscriptions state with
    | error e => rw [start, hcursor, hsubscriptions] at h; cases h
    | ok subscriptions =>
      rw [start, hcursor, hsubscriptions] at h
      cases h
      exact ⟨cursor, subscriptions, rfl, rfl, rfl⟩

theorem Cycle.waiting_of_start {registry : Registry σ} {width : Nat} {state : σ} {cycle : Cycle}
    (h : start registry width state = .ok cycle) {errand : Errand}
    (herrand : errand ∈ cycle.errands) : errand.stage = .waiting := by
  obtain ⟨cursor, subscriptions, -, -, rfl⟩ := of_start h
  obtain ⟨board, -, rfl⟩ := List.mem_map.mp herrand
  rfl

theorem Cycle.width_of_start {registry : Registry σ} {width : Nat} {state : σ} {cycle : Cycle}
    (h : start registry width state = .ok cycle) : cycle.width = max 1 width := by
  obtain ⟨cursor, subscriptions, -, -, rfl⟩ := of_start h
  rfl

theorem Cycle.trace_of_start {registry : Registry σ} {width : Nat} {state : σ} {cycle : Cycle}
    (h : start registry width state = .ok cycle) : cycle.trace = .none := by
  obtain ⟨cursor, subscriptions, -, -, rfl⟩ := of_start h
  rfl

/-- A cycle over a store's subscriptions, before its first step. -/
def Cycle.opening (store : Store) (width : Nat) : Cycle :=
  ⟨store.cursor, max 1 width, (boardsOf store.subscriptions).map (errandOf store.subscriptions),
    .none⟩

/-- Over a store that can be read, a cycle begins with its subscriptions. -/
theorem Cycle.start_eq {registry : Registry σ} {state : σ} {store : Store}
    (hreads : registry.Reads state store) (width : Nat) :
    Cycle.start registry width state = .ok (opening store width) := by
  rw [start, hreads.cursor, hreads.subscriptions]
  rfl

theorem Cycle.stage_opening {store : Store} {width : Nat} {errand : Errand}
    (herrand : errand ∈ (opening store width).errands) : errand.stage = .waiting := by
  obtain ⟨board, -, rfl⟩ := List.mem_map.mp herrand
  rfl

/-- **Before the first step** nothing is lost: nothing has been sent or asked. -/
theorem Cycle.accounted_opening (site : Site) (known : Int64 → List User) (store : Store)
    (width : Nat) : (opening store width).Accounted site known where
  width := Nat.lt_of_lt_of_le Nat.one_pos (Nat.le_max_left 1 width)
  errands := fun errand herrand => by
    rw [Errand.Accounted, stage_opening herrand]
    trivial
  sends := by
    have hnone : (opening store width).errands.flatMap (·.sent) = [] := by
      refine List.flatMap_eq_nil_iff.mpr fun errand herrand => ?_
      rw [Errand.sent, stage_opening herrand]
    rw [hnone]
    exact .nil

/-- A cycle begins with an errand for each board, and owes what the store's
subscriptions call for. -/
theorem Cycle.promised_opening {registry : Registry σ} {state : σ} {store : Store}
    (hreads : registry.Reads state store) (site : Site) (width : Nat) :
    ((opening store width).promised site (registry.known state)).Perm
      (owed site store (registry.answers state)) := by
  rw [promised, opening, List.flatMap_map, owed]
  -- Boards in ascending order, not in the order of the store: a permutation.
  refine List.Perm.trans (.of_eq ?_) ((boardsOf_perm store.subscriptions).flatMap_right _)
  refine List.flatMap_congr fun board _ => ?_
  rw [Errand.promised, owedBoard, errandOf]
  cases site.listing board with
  | answer listing =>
    refine List.flatMap_congr fun thread _ => ?_
    exact jobSends_wants site store (registry.answers state) board thread hreads.known_eq
  | failure => rfl
  | collapse => rfl

/-! ## §5. The end of a cycle. -/

/-- A settled cycle has sent what its boards were promised. -/
theorem Cycle.Accounted.sends_perm {site : Site} {known : Int64 → List User} {cycle : Cycle}
    (haccounted : cycle.Accounted site known) (hsettled : cycle.isSettled) :
    cycle.trace.sends.Perm (cycle.promised site known) := by
  rw [isSettled, List.all_eq_true] at hsettled
  refine haccounted.sends.trans (.flatMap_left _ fun errand herrand => ?_)
  exact (haccounted.errands errand herrand).sent_perm (hsettled errand herrand)

/-- The report of a settled cycle lists what was sent. -/
theorem Cycle.Accounted.report_sends {site : Site} {known : Int64 → List User} {cycle : Cycle}
    (haccounted : cycle.Accounted site known) (hsettled : cycle.isSettled) (after : UInt64) :
    (cycle.report after).sends.Perm cycle.trace.sends := by
  refine List.Perm.trans (.of_eq ?_) haccounted.sends.symm
  have herrands := haccounted.errands
  rw [isSettled, List.all_eq_true] at hsettled
  -- Only reports are counted, and here every errand has reported.
  rw [report, tallies, List.filterMap_eq_flatMap_toList, List.flatMap_assoc]
  refine List.flatMap_congr fun errand herrand => ?_
  have hreported := hsettled errand herrand
  have hlives := (herrands errand herrand).ne_dead
  obtain ⟨board, subscriptions, stage⟩ := errand
  cases stage with
  | reported tally => exact List.flatMap_singleton _ _
  | dead => exact absurd rfl hlives
  | waiting => cases hreported
  | listing => cases hreported
  | looking found missing users => cases hreported
  | fetching queued running tally => cases hreported

/-- Ending a cycle sends nothing more, and its report keeps to the
errands. -/
theorem Cycle.commit_sends (registry : Registry σ) (state : σ) (cycle : Cycle) :
    (cycle.commit registry state).2.1.sends = cycle.trace.sends ∧
      ∀ report, (cycle.commit registry state).1 = .ok report →
        ∃ after, report = cycle.report after := by
  rw [commit]
  split
  · have htrace : (cycle.trace.append (.call (.advance cycle.newest))).sends =
        cycle.trace.sends := List.append_nil _
    cases registry.advance cycle.newest state with
    | mk result state =>
      cases result with
      | error e => exact ⟨htrace, fun report h => by cases h⟩
      | ok moved =>
        cases moved with
        | true => exact ⟨htrace, fun report h => ⟨_, by cases h; rfl⟩⟩
        -- another has moved the cursor further; it is read again for the report
        | false =>
          refine ⟨htrace, fun report h => ?_⟩
          dsimp only at h
          cases hnow : registry.cursor state with
          | error e => rw [hnow] at h; cases h
          | ok now => rw [hnow] at h; exact ⟨now, by cases h; rfl⟩
  · exact ⟨rfl, fun report h => ⟨_, by cases h; rfl⟩⟩

end BoardRelay.Crawl
