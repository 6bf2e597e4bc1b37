/-
  BoardRelay.Proofs.Store.Borne
  ────────────────────────────────
  What becomes of an identifier while a store is changed.  A link never leads
  nowhere: if an identifier leads to a subscription, it does so after any
  deed, though not always to the same one (`Borne.onStore`).  A subscription
  itself stays as it is until something is removed (`Deed.mem_onStore`).
-/
import BoardRelay.Proofs.Store.WellFormed

namespace BoardRelay.Store

/-! ## §1. Links after a deed. -/

/-- Whether a subscription has an identifier, if any link leads to it. -/
def Borne (id : Int64) (store : Store) : Prop :=
  ∀ link ∈ store.links, link.subscription = id → ∃ s ∈ store.subscriptions, s.id = id

/-- A store with all subscriptions of another, each new link of which leads to
one. -/
structure Grows (store next : Store) : Prop where
  subscriptions : ∀ s ∈ store.subscriptions, s ∈ next.subscriptions
  links : ∀ link ∈ next.links,
    link ∈ store.links ∨ ∃ s ∈ next.subscriptions, s.id = link.subscription

/-- A store with some links of another, each of which leads to all that it led
to. -/
structure Shrinks (store next : Store) : Prop where
  links : ∀ link ∈ next.links, link ∈ store.links
  kept : ∀ link ∈ next.links, ∀ s ∈ store.subscriptions, s.id = link.subscription →
    s ∈ next.subscriptions

theorem Grows.refl (store : Store) : store.Grows store :=
  ⟨fun _ hs => hs, fun _ => .inl⟩

theorem Shrinks.refl (store : Store) : store.Shrinks store :=
  ⟨fun _ hlink => hlink, fun _ _ _ hs _ => hs⟩

/-- A new link leads to a subscription, and the old ones lose none. -/
theorem Borne.grows {store next : Store} {id : Int64} (h : store.Borne id)
    (hgrows : store.Grows next) : next.Borne id := by
  intro link hlink hid
  rcases hgrows.links link hlink with hold | ⟨s, hs, heq⟩
  · obtain ⟨s, hs, heq⟩ := h link hold hid
    exact ⟨s, hgrows.subscriptions s hs, heq⟩
  · exact ⟨s, hs, heq.trans hid⟩

/-- A link that is left still leads to what it led to. -/
theorem Borne.shrinks {store next : Store} {id : Int64} (h : store.Borne id)
    (hshrinks : store.Shrinks next) : next.Borne id := by
  intro link hlink hid
  obtain ⟨s, hs, heq⟩ := h link (hshrinks.links link hlink) hid
  exact ⟨s, hshrinks.kept link hlink s hs (heq.trans hid.symm), heq⟩

/-- A new user brings neither links nor subscriptions. -/
theorem grows_register (chat : Int64) (store : Store) : store.Grows (store.register chat).2 := by
  obtain ⟨-, hsubscriptions, hlinks⟩ := register_spec chat store
  refine ⟨fun s hs => ?_, fun link hlink => .inl ?_⟩
  · rwa [hsubscriptions]
  · rwa [hlinks] at hlink

/-- A personal subscription comes with the one link that leads to it. -/
theorem grows_add (chat : Int64) (wanted : Subscription) (store : Store) :
    store.Grows (store.add chat wanted).2 := by
  have hregister := grows_register chat store
  rw [add]
  generalize store.register chat = registered at hregister
  obtain ⟨user, store⟩ := registered
  refine ⟨fun s hs => List.mem_append_left _ (hregister.subscriptions s hs),
    fun link hlink => ?_⟩
  -- an old link leads where it led, the new one to what was added with it
  rcases List.mem_append.mp hlink with hold | hnew
  · rcases hregister.links link hold with hbefore | ⟨s, hs, heq⟩
    · exact .inl hbefore
    · exact .inr ⟨s, List.mem_append_left _ hs, heq⟩
  · rw [List.mem_singleton.mp hnew]
    exact .inr ⟨_, List.mem_append_right _ (List.mem_singleton_self _), rfl⟩

/-- A shared subscription comes without links. -/
theorem grows_share {store next : Store} {wanted added : Subscription}
    (h : store.share wanted = (.ok added, next)) : store.Grows next := by
  obtain ⟨-, -, rfl⟩ := share_eq_ok h
  exact ⟨fun s hs => List.mem_append_left _ hs, fun _ => .inl⟩

/-- The new link leads to the subscription that was found by its alias. -/
theorem grows_join {store next : Store} {chat : Int64} {aliasName : String}
    {joined : Subscription} (h : store.join chat aliasName = (.ok joined, next)) :
    store.Grows next := by
  have hregister := grows_register chat store
  obtain ⟨hfound, rfl⟩ := join_eq_ok h
  have hmem := hregister.subscriptions joined (mem_of_sharedAs? hfound).1
  -- registering the chat lets the store grow already; the link is all that is new
  unfold linkOnce
  split
  · exact hregister
  · refine ⟨hregister.subscriptions, fun link hlink => ?_⟩
    rcases List.mem_append.mp hlink with hold | hnew
    · exact hregister.links link hold
    · rw [List.mem_singleton.mp hnew]
      exact .inr ⟨joined, hmem, rfl⟩

/-- A subscription goes together with every link to its identifier. -/
theorem shrinks_unshare {store next : Store} {aliasName : String} {removed : Subscription}
    (h : store.unshare aliasName = (.ok removed, next)) : store.Shrinks next := by
  obtain ⟨-, rfl⟩ := unshare_eq_ok h
  refine ⟨fun link hlink => List.mem_of_mem_filter hlink, fun link hlink s hs heq => ?_⟩
  -- links and subscriptions are filtered by the same identifier
  have hother := (List.mem_filter.mp hlink).2
  exact List.mem_filter.mpr ⟨hs, by rwa [heq]⟩

/-- A link goes, and its subscription only if no other link leads there. -/
theorem shrinks_remove (chat id : Int64) (store : Store) :
    store.Shrinks (store.remove chat id).2 := by
  unfold Store.remove
  cases huser : store.userOf? chat with
  | none => exact .refl store
  | some user =>
    dsimp only
    split
    · refine ⟨fun link hlink => List.mem_of_mem_filter hlink, fun link hlink s hs heq => ?_⟩
      dsimp only
      rw [dropOrphan]
      -- a link that is left keeps its subscription from being an orphan
      split
      · exact hs
      · next hnone =>
        have hne : s.id ≠ id := by
          rintro rfl
          exact hnone (List.any_eq_true.mpr ⟨link, hlink, decide_eq_true heq.symm⟩)
        exact List.mem_filter.mpr ⟨hs, by simp [hne]⟩
    · exact .refl store

/-! ## §2. Deeds that remove nothing. -/

/-- Whether a deed may take a subscription away. -/
def Deed.removes : Deed → Bool
  | .update asked => asked.removes
  | _ => false

/-- A change lets a store grow, or it removes something. -/
theorem Change.Granted.grows_or_shrinks {store next : Store} {asked : Change} {reply : Reply}
    (h : asked.Granted store reply next) :
    store.Grows next ∨ asked.removes = true ∧ store.Shrinks next := by
  cases h with
  | register chat => exact .inl (grows_register chat store)
  | add chat wanted => exact .inl (grows_add chat wanted store)
  | share _ hshare => exact .inl (grows_share hshare)
  | join hjoin => exact .inl (grows_join hjoin)
  | unshare hunshare => exact .inr ⟨rfl, shrinks_unshare hunshare⟩
  | remove chat id => exact .inr ⟨rfl, shrinks_remove chat id store⟩

/-- A deed lets a store grow, or it removes something: moving the cursor does
neither. -/
theorem Deed.grows_or_shrinks (deed : Deed) (store : Store) :
    store.Grows (deed.onStore store).2 ∨
      deed.removes = true ∧ store.Shrinks (deed.onStore store).2 := by
  cases deed with
  | update asked =>
    -- a refused request leaves the store as it is, which grows by nothing
    rcases asked.granted_or_refused store with ⟨reply, next, happly, hgranted⟩ | ⟨e, happly⟩
    · simp only [onStore, happly]
      exact hgranted.grows_or_shrinks
    · simp only [onStore, happly]
      exact .inl (.refl store)
  | advance timestamp =>
    simp only [onStore, Store.advance]
    split <;> exact .inl ⟨fun _ hs => hs, fun _ => .inl⟩
  | reopen => exact .inl (.refl store)

/-- An identifier that leads to a subscription does so after any deed. -/
theorem Borne.onStore {store : Store} {id : Int64} (h : store.Borne id) (deed : Deed) :
    (deed.onStore store).2.Borne id := by
  rcases deed.grows_or_shrinks store with hgrows | ⟨-, hshrinks⟩
  · exact h.grows hgrows
  · exact h.shrinks hshrinks

/-- A subscription stays as it is unless something is removed. -/
theorem Deed.mem_onStore {deed : Deed} (h : deed.removes = false) {store : Store}
    {s : Subscription} (hs : s ∈ store.subscriptions) :
    s ∈ (deed.onStore store).2.subscriptions := by
  rcases deed.grows_or_shrinks store with hgrows | ⟨hremoves, -⟩
  · exact hgrows.subscriptions s hs
  · rw [h] at hremoves
    cases hremoves

end BoardRelay.Store
