/-
  BoardRelay.Proofs.Store.Change
  ────────────────────────────────
  All that a change can do to a store.  One that is granted has registered a
  chat, added, shared, joined, taken back or removed a subscription
  (`Change.Granted`); one that is refused has done nothing at all
  (`Change.store_of_refused`).  What holds of a store after a change is
  derived from these two alone.
-/
import BoardRelay.Store.Change

namespace BoardRelay.Store

variable {store next : Store} {chat : Int64} {aliasName : String}

/-! ## §1. Changes that need an alias. -/

/-- **What sharing does**: the alias was free, and one subscription has come,
under the next identifier. -/
theorem share_eq_ok {wanted added : Subscription} (h : store.share wanted = (.ok added, next)) :
    store.sharedAs? wanted.aliasName = none ∧
      added = { wanted with id := nextId (store.subscriptions.map (·.id)), shared := true } ∧
      next = { store with subscriptions := store.subscriptions ++ [added] } := by
  unfold share at h
  cases hfree : store.sharedAs? wanted.aliasName with
  | some other => simp [hfree] at h
  | none =>
    simp only [hfree, Prod.mk.injEq, Except.ok.injEq] at h
    obtain ⟨rfl, rfl⟩ := h
    exact ⟨rfl, rfl, rfl⟩

/-- **What joining does**: the alias was that of a shared subscription, to
which the chat, registered first, is linked. -/
theorem join_eq_ok {joined : Subscription} (h : store.join chat aliasName = (.ok joined, next)) :
    store.sharedAs? aliasName = some joined ∧
      next = (store.register chat).2.linkOnce ⟨(store.register chat).1.id, joined.id⟩ := by
  unfold join at h
  cases hfound : store.sharedAs? aliasName with
  | none => simp [hfound] at h
  | some found =>
    simp only [hfound, Prod.mk.injEq, Except.ok.injEq] at h
    obtain ⟨rfl, rfl⟩ := h
    exact ⟨rfl, rfl⟩

/-- **What taking back does**: the alias was that of a shared subscription,
and all that has its identifier is gone, links included. -/
theorem unshare_eq_ok {removed : Subscription}
    (h : store.unshare aliasName = (.ok removed, next)) :
    store.sharedAs? aliasName = some removed ∧ next = { store with
      links := store.links.filter fun link => link.subscription != removed.id
      subscriptions := store.subscriptions.filter fun s => s.id != removed.id } := by
  unfold unshare at h
  cases hfound : store.sharedAs? aliasName with
  | none => simp [hfound] at h
  | some found =>
    simp only [hfound, Prod.mk.injEq, Except.ok.injEq] at h
    obtain ⟨rfl, rfl⟩ := h
    exact ⟨rfl, rfl⟩

/-- A refused share: another subscription has the alias, and keeps it. -/
theorem store_of_share_error {wanted : Subscription} {e : Error}
    (h : (store.share wanted).1 = .error e) : (store.share wanted).2 = store := by
  unfold share at h ⊢
  cases hfree : store.sharedAs? wanted.aliasName with
  | some other => rfl
  | none => simp [hfree] at h

/-- The alias is looked for before the chat is registered, so that nobody is
registered in vain. -/
theorem store_of_join_error {e : Error} (h : (store.join chat aliasName).1 = .error e) :
    (store.join chat aliasName).2 = store := by
  unfold join at h ⊢
  cases hfound : store.sharedAs? aliasName with
  | none => rfl
  | some found => simp [hfound] at h

/-- Nothing is taken away under an alias that leads nowhere. -/
theorem store_of_unshare_error {e : Error} (h : (store.unshare aliasName).1 = .error e) :
    (store.unshare aliasName).2 = store := by
  unfold unshare at h ⊢
  cases hfound : store.sharedAs? aliasName with
  | none => rfl
  | some found => simp [hfound] at h

/-! ## §2. All changes. -/

/-- Whether a change may take a subscription away. -/
def Change.removes : Change → Bool
  | .unshare _ => true
  | .remove _ _ => true
  | _ => false

/-- What a change that was granted has answered, and the store that it has
left.  Where it gave a subscription as a text, that was read before. -/
inductive Change.Granted (store : Store) : Change → Reply → Store → Prop
  | register (chat : Int64) : Granted store (.register chat)
      (.user (store.register chat).1) (store.register chat).2
  | add {asked : Change} (chat : Int64) (wanted : Subscription) : asked.removes = false →
      Granted store asked (.subscription (store.add chat wanted).1) (store.add chat wanted).2
  | share {asked : Change} {wanted added : Subscription} {next : Store} :
      asked.removes = false → store.share wanted = (.ok added, next) →
      Granted store asked (.subscription added) next
  | join {chat : Int64} {aliasName : String} {joined : Subscription} {next : Store} :
      store.join chat aliasName = (.ok joined, next) →
      Granted store (.join chat aliasName) (.subscription joined) next
  | unshare {aliasName : String} {removed : Subscription} {next : Store} :
      store.unshare aliasName = (.ok removed, next) →
      Granted store (.unshare aliasName) (.subscription removed) next
  | remove (chat id : Int64) : Granted store (.remove chat id)
      (.removed (store.remove chat id).1) (store.remove chat id).2

/-- An answer in its form as a reply was an answer before. -/
theorem replyWith_eq_ok {α : Type} {form : α → Reply} {outcome : Except Error α × Store}
    {reply : Reply} (h : replyWith form outcome = (.ok reply, next)) :
    ∃ value, outcome = (.ok value, next) ∧ reply = form value := by
  obtain ⟨result, after⟩ := outcome
  cases result with
  | error e => simp [replyWith, Except.map] at h
  | ok value =>
    simp only [replyWith, Except.map, Prod.mk.injEq, Except.ok.injEq] at h
    obtain ⟨rfl, rfl⟩ := h
    exact ⟨value, rfl, rfl⟩

/-- A refusal is passed on as it is: no form turns an answer into one. -/
theorem of_replyWith_eq_error {α : Type} {form : α → Reply} {outcome : Except Error α × Store}
    {e : Error} (h : (replyWith form outcome).1 = .error e) : outcome.1 = .error e := by
  obtain ⟨result, after⟩ := outcome
  cases result with
  | error e' => simpa [replyWith, Except.map] using h
  | ok value => simp [replyWith, Except.map] at h

/-- **A change that is answered was granted.** -/
theorem Change.granted_of_ok {asked : Change} {reply : Reply}
    (h : asked.apply store = (.ok reply, next)) : asked.Granted store reply next := by
  cases asked with
  | register chat =>
    cases h
    exact .register chat
  | add chat wanted =>
    cases h
    exact .add chat wanted rfl
  -- a request that cannot be read is answered before the store is asked
  | addRequest chat request =>
    cases hread : Subscription.ofRequest request with
    | error e => simp [apply, hread] at h
    | ok wanted =>
      simp only [apply, hread] at h
      cases h
      exact .add chat wanted rfl
  | share wanted =>
    obtain ⟨added, hshare, rfl⟩ := replyWith_eq_ok h
    exact .share rfl hshare
  | shareRequest request =>
    cases hread : Subscription.ofSharedRequest request with
    | error e => simp [apply, hread] at h
    | ok wanted =>
      simp only [apply, hread] at h
      obtain ⟨added, hshare, rfl⟩ := replyWith_eq_ok h
      exact .share rfl hshare
  | join chat aliasName =>
    obtain ⟨joined, hjoin, rfl⟩ := replyWith_eq_ok h
    exact .join hjoin
  | unshare aliasName =>
    obtain ⟨removed, hunshare, rfl⟩ := replyWith_eq_ok h
    exact .unshare hunshare
  | remove chat id =>
    cases h
    exact .remove chat id

/-- **A change that is refused has done nothing.** -/
theorem Change.store_of_refused {asked : Change} {e : Error}
    (h : (asked.apply store).1 = .error e) : (asked.apply store).2 = store := by
  cases asked with
  | register chat => cases h
  | add chat wanted => cases h
  | addRequest chat request =>
    cases hread : Subscription.ofRequest request with
    | error e' => simp only [apply, hread]
    | ok wanted =>
      simp only [apply, hread] at h
      cases h
  | share wanted => exact store_of_share_error (of_replyWith_eq_error h)
  | shareRequest request =>
    cases hread : Subscription.ofSharedRequest request with
    | error e' => simp only [apply, hread]
    | ok wanted =>
      simp only [apply, hread] at h ⊢
      exact store_of_share_error (of_replyWith_eq_error h)
  | join chat aliasName => exact store_of_join_error (of_replyWith_eq_error h)
  | unshare aliasName => exact store_of_unshare_error (of_replyWith_eq_error h)
  | remove chat id => cases h

/-- So a change either is granted or leaves the store alone. -/
theorem Change.granted_or_refused (asked : Change) (store : Store) :
    (∃ reply next, asked.apply store = (.ok reply, next) ∧ asked.Granted store reply next) ∨
      ∃ e, asked.apply store = (.error e, store) := by
  cases happly : asked.apply store with
  | mk result next =>
    cases result with
    | ok reply => exact .inl ⟨reply, next, rfl, granted_of_ok happly⟩
    | error e =>
      -- the store that stands beside an error is the one that was there before
      have hstore : (asked.apply store).2 = store :=
        store_of_refused (congrArg Prod.fst happly)
      rw [happly] at hstore
      exact .inr ⟨e, by rw [← hstore]⟩

end BoardRelay.Store
