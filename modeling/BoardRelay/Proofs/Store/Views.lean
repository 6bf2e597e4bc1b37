/-
  BoardRelay.Proofs.Store.Views
  ────────────────────────────────
  What each chat sees of a store: the list of its subscriptions, which is a
  join of users, links and subscriptions.  Every operation is an operation on
  these lists (`Store.Viewed`), though identifiers are given out again: the
  one that a new subscription gets is in no link, because links never outlive
  what they lead to (`viewed_of_wellFormed`).
-/
import BoardRelay.Proofs.Store.WellFormed

namespace BoardRelay.Store

/-! ## §1. What operations do to lists. -/

/-- Whether an answer reports a failure. -/
def Answer.isFailure : Except Error Answer → Bool
  | .error _ => true
  | .ok (.reply (.removed wasLinked)) => !wasLinked
  | .ok (.moved advanced) => !advanced
  | .ok _ => false

/-- Whether operations on a store are operations on the lists of its chats. -/
structure Viewed (store : Store) : Prop where
  /-- Who receives and what is subscribed to are one relation. -/
  subscribers {user : User} {s : Subscription} : user ∈ store.users → s ∈ store.subscriptions →
    (user ∈ store.subscribersOf s.id ↔ s ∈ store.subscriptionsOf user.chat)
  register (chat other : Int64) :
    (store.register chat).2.subscriptionsOf other = store.subscriptionsOf other
  add (chat : Int64) (wanted : Subscription) :
    ∃ added next, store.add chat wanted = (added, next) ∧
      added = { wanted with id := added.id, shared := false } ∧
      (∀ s ∈ store.subscriptions, s.id ≠ added.id) ∧
      next.subscriptionsOf chat = store.subscriptionsOf chat ++ [added] ∧
      (∃ user, next.userOf? chat = some user ∧ next.subscribersOf added.id = [user]) ∧
      ∀ other, other ≠ chat → next.subscriptionsOf other = store.subscriptionsOf other
  share {wanted : Subscription} : store.sharedAs? wanted.aliasName = none →
    ∃ added next, store.share wanted = (.ok added, next) ∧
      added = { wanted with id := added.id, shared := true } ∧
      (∀ s ∈ store.subscriptions, s.id ≠ added.id) ∧
      ∀ chat, next.subscriptionsOf chat = store.subscriptionsOf chat
  /-- The list has the shared subscription once, and joining again changes
  nothing. -/
  join {aliasName : String} {s : Subscription} (chat : Int64) :
    store.sharedAs? aliasName = some s →
    ∃ next, store.join chat aliasName = (.ok s, next) ∧
      (next.subscriptionsOf chat).Perm (s :: (store.subscriptionsOf chat).erase s) ∧
      (∀ other, other ≠ chat → next.subscriptionsOf other = store.subscriptionsOf other) ∧
      next.join chat aliasName = (.ok s, next)
  unshare {aliasName : String} {s : Subscription} : store.sharedAs? aliasName = some s →
    ∃ next, store.unshare aliasName = (.ok s, next) ∧
      ∀ chat, next.subscriptionsOf chat = (store.subscriptionsOf chat).erase s
  remove (chat id : Int64) :
    ((store.remove chat id).1 = true ↔ ∃ s ∈ store.subscriptionsOf chat, s.id = id) ∧
      (∀ s ∈ store.subscriptionsOf chat, s.id = id →
        (store.remove chat id).2.subscriptionsOf chat = (store.subscriptionsOf chat).erase s) ∧
      ∀ other, other ≠ chat →
        (store.remove chat id).2.subscriptionsOf other = store.subscriptionsOf other
  failure (deed : Deed) : Answer.isFailure (deed.onStore store).1 = true →
    (deed.onStore store).2 = store

/-! ## §2. Identifiers and links. -/

/-- The next identifier is not in use: it is larger than all that are, or
past the largest word and then negative. -/
theorem nextId_not_mem {ids : List Int64} (hpositive : ∀ id ∈ ids, 0 < id) :
    nextId ids ∉ ids := by
  intro hmem
  unfold nextId at hmem
  cases hmax : ids.max? with
  | none =>
    rw [List.max?_eq_none_iff] at hmax
    rw [hmax] at hmem
    cases hmem
  | some largest =>
    rw [hmax, Option.getD_some] at hmem
    obtain ⟨-, hle⟩ := List.max?_eq_some_iff.mp hmax
    -- past the largest word the sum is negative, and otherwise it is larger than itself
    have hsmall := Int64.le_iff_toInt_le.mp (hle _ hmem)
    have hsucc := Int64.lt_iff_toInt_lt.mp (hpositive _ hmem)
    have hlow := largest.le_toInt
    have hhigh := largest.toInt_lt
    rw [Int64.toInt_add, Int64.toInt_one] at hsmall hsucc
    rw [Int64.toInt_zero] at hsucc
    simp only [Int.bmod_def] at hsmall hsucc
    omega

/-- To be linked is to have that link. -/
theorem linked_iff {store : Store} {user subscription : Int64} :
    store.linked user subscription = true ↔ ⟨user, subscription⟩ ∈ store.links := by
  simp only [linked, List.any_eq_true, Bool.and_eq_true, decide_eq_true_eq]
  constructor
  · rintro ⟨⟨_, _⟩, hlink, rfl, rfl⟩
    exact hlink
  · intro hlink
    exact ⟨_, hlink, rfl, rfl⟩

/-- A chat with a user sees what the user is linked to. -/
theorem subscriptionsOf_of_userOf? {store : Store} {chat : Int64} {user : User}
    (h : store.userOf? chat = some user) : store.subscriptionsOf chat =
      store.subscriptions.filter fun s => store.linked user.id s.id := by
  rw [subscriptionsOf, h]

theorem subscriptionsOf_of_none {store : Store} {chat : Int64} (h : store.userOf? chat = none) :
    store.subscriptionsOf chat = [] := by
  rw [subscriptionsOf, h]

/-- Whatever a chat sees is a subscription of the store that its user is linked
to. -/
theorem mem_subscriptionsOf {store : Store} {chat : Int64} {s : Subscription}
    (h : s ∈ store.subscriptionsOf chat) : s ∈ store.subscriptions ∧
      ∃ user, store.userOf? chat = some user ∧ store.linked user.id s.id = true := by
  cases huser : store.userOf? chat with
  | none =>
    rw [subscriptionsOf_of_none huser] at h
    cases h
  | some user =>
    rw [subscriptionsOf_of_userOf? huser] at h
    obtain ⟨hs, hlinked⟩ := List.mem_filter.mp h
    exact ⟨hs, user, rfl, hlinked⟩

/-- A list is the same where the user and the links of the user are. -/
theorem subscriptionsOf_congr {store next : Store} {chat : Int64}
    (hsubscriptions : next.subscriptions = store.subscriptions)
    (huser : next.userOf? chat = store.userOf? chat)
    (hlinked : ∀ user, store.userOf? chat = some user → ∀ s ∈ store.subscriptions,
      next.linked user.id s.id = store.linked user.id s.id) :
    next.subscriptionsOf chat = store.subscriptionsOf chat := by
  unfold subscriptionsOf
  rw [huser, hsubscriptions]
  cases hfound : store.userOf? chat with
  | none => rfl
  | some user => exact List.filter_congr (hlinked user hfound)

/-- A store with one more link. -/
def plusLink (link : Link) (store : Store) : Store :=
  { store with links := store.links ++ [link] }

/-- A store with one more subscription. -/
def plusSubscription (added : Subscription) (store : Store) : Store :=
  { store with subscriptions := store.subscriptions ++ [added] }

/-- A link is there, or is the one that was added. -/
theorem linked_plusLink {store : Store} {owner id user subscription : Int64} :
    (store.plusLink ⟨owner, id⟩).linked user subscription =
      (store.linked user subscription || (user == owner && subscription == id)) := by
  rw [Bool.eq_iff_iff, linked_iff, Bool.or_eq_true, linked_iff, plusLink, List.mem_append,
    List.mem_singleton, Link.mk.injEq, Bool.and_eq_true, beq_iff_eq, beq_iff_eq]

/-- A store with only some of its links, and these subscriptions. -/
def withOnly (keeps : Link → Bool) (subscriptions : List Subscription) (store : Store) : Store :=
  { store with links := store.links.filter keeps, subscriptions }

/-- A link is left if it was there and is kept. -/
theorem linked_withOnly {store : Store} {keeps : Link → Bool} {subscriptions : List Subscription}
    {user subscription : Int64} :
    (store.withOnly keeps subscriptions).linked user subscription =
      (store.linked user subscription && keeps ⟨user, subscription⟩) := by
  rw [Bool.eq_iff_iff, linked_iff, Bool.and_eq_true, linked_iff]
  exact List.mem_filter

/-- The list of a chat in a store without some links and subscriptions. -/
theorem subscriptionsOf_withOnly {store : Store} {keeps : Link → Bool}
    {subscriptions : List Subscription} {chat : Int64} {user : User}
    (huser : store.userOf? chat = some user) :
    (store.withOnly keeps subscriptions).subscriptionsOf chat = subscriptions.filter
      fun s => store.linked user.id s.id && keeps ⟨user.id, s.id⟩ := by
  have hafter : (store.withOnly keeps subscriptions).userOf? chat = some user := huser
  rw [subscriptionsOf_of_userOf? hafter]
  exact List.filter_congr fun s _ => linked_withOnly

/-- Whoever is still linked sees no orphan go. -/
theorem filter_dropOrphan {links : List Link} {keeps : Subscription → Bool}
    (hlinked : ∀ s, keeps s = true → ∃ link ∈ links, link.subscription = s.id)
    (id : Int64) (subscriptions : List Subscription) :
    (dropOrphan id links subscriptions).filter keeps = subscriptions.filter keeps := by
  unfold dropOrphan
  split
  · rfl
  · next hnone =>
    rw [List.filter_filter]
    refine List.filter_congr fun s _ => ?_
    cases hs : keeps s with
    | false => rfl
    | true =>
      -- a subscription that is kept has a link, so it is not the orphan
      obtain ⟨link, hlink, heq⟩ := hlinked s hs
      have hne : s.id ≠ id := fun hid =>
        hnone (List.any_eq_true.mpr ⟨link, hlink, decide_eq_true (heq.trans hid)⟩)
      simp [hne]

/-- A new subscription is at the end of the list of a user who is linked to
it. -/
theorem subscriptionsOf_plusSubscription {store : Store} {added : Subscription} {chat : Int64}
    {user : User} (huser : store.userOf? chat = some user) :
    (store.plusSubscription added).subscriptionsOf chat =
      store.subscriptionsOf chat ++ if store.linked user.id added.id then [added] else [] := by
  have hafter : (store.plusSubscription added).userOf? chat = some user := huser
  -- the users and the links are the same, so only the end of the list is asked about
  rw [subscriptionsOf_of_userOf? huser, subscriptionsOf_of_userOf? hafter, plusSubscription,
    List.filter_append, List.filter_cons, List.filter_nil]
  rfl

/-- It is in no other list. -/
theorem subscriptionsOf_plusSubscription_of_unlinked {store : Store} {added : Subscription}
    {chat : Int64}
    (h : ∀ user, store.userOf? chat = some user → store.linked user.id added.id = false) :
    (store.plusSubscription added).subscriptionsOf chat = store.subscriptionsOf chat := by
  cases huser : store.userOf? chat with
  | none =>
    rw [subscriptionsOf_of_none huser]
    exact subscriptionsOf_of_none huser
  | some user =>
    rw [subscriptionsOf_plusSubscription huser, h user huser, if_neg Bool.false_ne_true,
      List.append_nil]

/-! ## §3. Registered chats. -/

/-- Whether a store is another with a chat registered: its user is there, is
no other chat's, and no list has changed. -/
structure Registered (chat : Int64) (user : User) (store next : Store) : Prop where
  subscriptions : next.subscriptions = store.subscriptions
  links : next.links = store.links
  found : next.userOf? chat = some user
  apart {other : Int64} {owner : User} : other ≠ chat → next.userOf? other = some owner →
    owner.id ≠ user.id
  ids : (next.users.map (·.id)).Nodup
  lists (other : Int64) : next.subscriptionsOf other = store.subscriptionsOf other

/-- A user is found by the chat, which no other user has. -/
theorem WellFormed.userOf?_eq {store : Store} (h : store.WellFormed) {user : User}
    (huser : user ∈ store.users) : store.userOf? user.chat = some user := by
  cases hfound : store.userOf? user.chat with
  | none =>
    rw [userOf?, List.find?_eq_none] at hfound
    exact absurd (hfound user huser) (by simp)
  | some other =>
    obtain ⟨hother, hchat⟩ := mem_of_userOf? hfound
    rw [List.inj_on_of_nodup_map h.chats hother huser hchat]

/-- One identifier, one user, who has one chat. -/
theorem WellFormed.chat_eq_of_id_eq {store : Store} (h : store.WellFormed) {chat other : Int64}
    {user owner : User} (huser : store.userOf? chat = some user)
    (howner : store.userOf? other = some owner) (heq : owner.id = user.id) : other = chat := by
  obtain ⟨hmem, hchat⟩ := mem_of_userOf? huser
  obtain ⟨hother, hself⟩ := mem_of_userOf? howner
  rw [← hself, ← hchat, List.inj_on_of_nodup_map h.userIds hother hmem heq]

/-- **A chat that is registered** has a user of its own, and nobody sees a
change. -/
theorem WellFormed.registered {store : Store} (h : store.WellFormed) (chat : Int64) :
    Registered chat (store.register chat).1 store (store.register chat).2 := by
  unfold Store.register
  cases hfound : store.userOf? chat with
  | some user =>
    exact ⟨rfl, rfl, hfound, fun hne howner heq => hne (h.chat_eq_of_id_eq hfound howner heq),
      h.userIds, fun _ => rfl⟩
  | none =>
    have hfresh : ∀ owner ∈ store.users, owner.id ≠ nextId (store.users.map (·.id)) :=
      fun owner howner heq => nextId_not_mem (List.forall_mem_map.mpr h.userPositive)
        (heq ▸ List.mem_map_of_mem howner)
    -- looking a chat up finds who was there before, and else the new user
    have hnew : ∀ other : Int64, userOf? other { store with
        users := store.users ++ [⟨nextId (store.users.map (·.id)), chat⟩] } =
          (store.userOf? other).or
            (if chat = other then some ⟨nextId (store.users.map (·.id)), chat⟩ else none) := by
      intro other
      rw [userOf?, List.find?_append, List.find?_singleton]
      simp [userOf?]
    refine ⟨rfl, rfl, ?_, fun {other owner} hne howner heq => ?_, ?_, fun other => ?_⟩
    · rw [hnew, hfound, Option.none_or, if_pos rfl]
    · rw [hnew, if_neg (Ne.symm hne), Option.or_none] at howner
      exact hfresh owner (mem_of_userOf? howner).1 heq
    · exact nodup_concat_map h.userIds hfresh
    · by_cases hchat : chat = other
      · -- the new user is in no link, and the chat had no list before
        subst hchat
        rw [subscriptionsOf_of_userOf? (by rw [hnew, hfound, Option.none_or, if_pos rfl]),
          subscriptionsOf, hfound, List.filter_eq_nil_iff]
        intro s _ hlinked
        obtain ⟨owner, howner, heq⟩ := h.linkedUser _ (linked_iff.mp hlinked)
        exact hfresh owner howner heq
      · exact subscriptionsOf_congr rfl (by rw [hnew, if_neg hchat, Option.or_none])
          fun _ _ _ _ => rfl

/-- What a registered chat sees once its user is linked to one more
subscription, and that no other chat sees it. -/
theorem Registered.subscriptionsOf_plusLink {chat : Int64} {user : User} {store base : Store}
    (h : Registered chat user store base) (id : Int64) :
    (base.plusLink ⟨user.id, id⟩).subscriptionsOf chat = base.subscriptions.filter
        (fun s => base.linked user.id s.id || s.id == id) ∧
      ∀ other, other ≠ chat →
        (base.plusLink ⟨user.id, id⟩).subscriptionsOf other = store.subscriptionsOf other := by
  have hfound : (base.plusLink ⟨user.id, id⟩).userOf? chat = some user := h.found
  refine ⟨?_, fun other hne => ?_⟩
  · rw [subscriptionsOf_of_userOf? hfound]
    exact List.filter_congr fun s _ => by rw [linked_plusLink, beq_self_eq_true, Bool.true_and]
  · rw [← h.lists other]
    refine subscriptionsOf_congr rfl rfl fun owner howner s _ => ?_
    rw [linked_plusLink, beq_false_of_ne (h.apart hne howner), Bool.false_and, Bool.or_false]

/-- The linked user is the only one of a subscription that nobody was linked
to. -/
theorem Registered.linked_plusLink {chat : Int64} {user : User} {store base : Store}
    (h : Registered chat user store base) {id owner : Int64}
    (hnone : store.linked owner id = false) :
    (base.plusLink ⟨user.id, id⟩).linked owner id = (owner == user.id) := by
  have hbase : base.linked owner id = store.linked owner id := by
    rw [linked, h.links, linked]
  rw [Store.linked_plusLink, hbase, hnone, beq_self_eq_true, Bool.and_true, Bool.false_or]

/-- So the linked user is all that receives it. -/
theorem Registered.subscribersOf_plusLink {chat : Int64} {user : User} {store base : Store}
    (h : Registered chat user store base) {id : Int64}
    (hnone : ∀ owner, store.linked owner id = false) :
    (base.plusLink ⟨user.id, id⟩).subscribersOf id = [user] := by
  obtain ⟨huser, -⟩ := mem_of_userOf? h.found
  have honly : ∀ owner ∈ base.users,
      (base.plusLink ⟨user.id, id⟩).linked owner.id id = (owner == user) := by
    intro owner howner
    rw [h.linked_plusLink (hnone owner.id), Bool.eq_iff_iff, beq_iff_eq, beq_iff_eq]
    exact ⟨List.inj_on_of_nodup_map h.ids howner huser, congrArg _⟩
  show base.users.filter (fun owner => (base.plusLink ⟨user.id, id⟩).linked owner.id id) = [user]
  rw [List.filter_congr honly, List.filter_beq, List.count_eq_one_of_mem h.ids.of_map huser,
    List.replicate_one]

/-- Joining changes nothing where the chat is linked. -/
theorem join_of_linked {store : Store} {chat : Int64} {user : User} {aliasName : String}
    {s : Subscription} (hs : store.sharedAs? aliasName = some s)
    (huser : store.userOf? chat = some user) (hlink : ⟨user.id, s.id⟩ ∈ store.links) :
    store.join chat aliasName = (.ok s, store) := by
  simp only [join, hs, register, huser, linkOnce, List.contains_iff_mem.mpr hlink, if_true]

/-- Removing takes a link from a chat that has it, and with it one
subscription from the list of that chat. -/
theorem remove_of_linked {store : Store} {chat id : Int64} {user : User}
    (huser : store.userOf? chat = some user) (hlink : ⟨user.id, id⟩ ∈ store.links) :
    ∃ next, store.remove chat id = (true, next) ∧
      (∀ other, next.userOf? other = store.userOf? other) ∧
      ∀ other owner, store.userOf? other = some owner → next.subscriptionsOf other =
        (store.subscriptionsOf other).filter fun s => Link.mk owner.id s.id != ⟨user.id, id⟩ := by
  -- the chat has a user and the user the link: the guards are open
  have hremove : store.remove chat id = (true, store.withOnly (· != ⟨user.id, id⟩)
      (dropOrphan id (store.links.filter (· != ⟨user.id, id⟩)) store.subscriptions)) := by
    rw [remove, huser]
    exact if_pos (List.contains_iff_mem.mpr hlink)
  refine ⟨_, hremove, fun _ => rfl, fun other owner howner => ?_⟩
  rw [subscriptionsOf_withOnly howner, subscriptionsOf_of_userOf? howner, List.filter_filter,
    filter_dropOrphan]
  · exact List.filter_congr fun s _ => Bool.and_comm _ _
  · intro s hs
    rw [Bool.and_eq_true, linked_iff] at hs
    exact ⟨_, List.mem_filter.mpr hs, rfl⟩

/-- Removing does nothing where the chat is not linked. -/
theorem remove_of_not_linked {store : Store} {chat id : Int64}
    (h : ∀ user, store.userOf? chat = some user → ⟨user.id, id⟩ ∉ store.links) :
    store.remove chat id = (false, store) := by
  cases huser : store.userOf? chat with
  | none => rw [remove, huser]
  | some user =>
    rw [remove, huser]
    exact if_neg (mt List.contains_iff_mem.mp (h user huser))

/-! ## §4. One operation. -/

section Operations

variable {store : Store} (h : store.WellFormed)

include h

theorem WellFormed.ne_nextId : ∀ s ∈ store.subscriptions,
    s.id ≠ nextId (store.subscriptions.map (·.id)) :=
  fun _ hs heq => nextId_not_mem (List.forall_mem_map.mpr h.subscriptionPositive)
    (heq ▸ List.mem_map_of_mem hs)

/-- Nobody is linked to the next identifier, though it may be one that was
given out before. -/
theorem WellFormed.linked_nextId (owner : Int64) :
    store.linked owner (nextId (store.subscriptions.map (·.id))) = false := by
  rw [← Bool.not_eq_true]
  intro hlinked
  obtain ⟨s, hs, heq⟩ := h.linkedSubscription _ (linked_iff.mp hlinked)
  exact h.ne_nextId s hs heq

theorem WellFormed.eq_of_id_eq {s other : Subscription} (hs : s ∈ store.subscriptions)
    (hother : other ∈ store.subscriptions) (heq : s.id = other.id) : s = other :=
  List.inj_on_of_nodup_map h.subscriptionIds hs hother heq

theorem WellFormed.nodup_subscriptionsOf (chat : Int64) : (store.subscriptionsOf chat).Nodup := by
  have hnodup : store.subscriptions.Nodup := h.subscriptionIds.of_map
  unfold subscriptionsOf
  split
  · exact List.nodup_nil
  · exact hnodup.filter _

/-- To take a subscription off a list is to take its identifier off. -/
theorem WellFormed.erase_eq_filter {s : Subscription} (hs : s ∈ store.subscriptions)
    (chat : Int64) : (store.subscriptionsOf chat).erase s =
      (store.subscriptionsOf chat).filter fun other => other.id != s.id := by
  rw [(h.nodup_subscriptionsOf chat).erase_eq_filter]
  refine List.filter_congr fun other hother => ?_
  rw [Bool.eq_iff_iff, bne_iff_ne, bne_iff_ne]
  exact not_congr ⟨congrArg _, h.eq_of_id_eq (mem_subscriptionsOf hother).1 hs⟩

/-- To let in one more subscription of a store is to put it once to those that
were let in. -/
theorem WellFormed.filter_or_perm {s : Subscription} (hs : s ∈ store.subscriptions)
    (keeps : Subscription → Bool) :
    (store.subscriptions.filter fun other => keeps other || other.id == s.id).Perm
      (s :: (store.subscriptions.filter keeps).erase s) := by
  -- neither list has anything twice, so it is enough that they have the same
  have hnodup : store.subscriptions.Nodup := h.subscriptionIds.of_map
  have hkept := hnodup.filter keeps
  refine (List.perm_ext_iff_of_nodup (hnodup.filter _)
    ((hkept.erase s).cons hkept.not_mem_erase)).mpr fun other => ?_
  rw [List.mem_cons, hkept.mem_erase_iff, List.mem_filter, List.mem_filter, Bool.or_eq_true,
    beq_iff_eq]
  constructor
  · rintro ⟨hother, hkeeps | heq⟩
    · exact (eq_or_ne other s).imp_right fun hne => ⟨hne, hother, hkeeps⟩
    · exact .inl (h.eq_of_id_eq hother hs heq)
  · rintro (rfl | ⟨-, hother, hkeeps⟩)
    · exact ⟨hs, .inr rfl⟩
    · exact ⟨hother, .inl hkeeps⟩

/-- Who receives a subscription is who sees it. -/
theorem WellFormed.mem_subscribersOf_iff {user : User} {s : Subscription}
    (huser : user ∈ store.users) (hs : s ∈ store.subscriptions) :
    user ∈ store.subscribersOf s.id ↔ s ∈ store.subscriptionsOf user.chat := by
  rw [subscribersOf, List.mem_filter, subscriptionsOf_of_userOf? (h.userOf?_eq huser),
    List.mem_filter]
  exact and_congr_left fun _ => iff_of_true huser hs

/-- **What adding shows**: the subscription, at the end of the list of the chat
and in no other, under an identifier that none had. -/
theorem WellFormed.view_add (chat : Int64) (wanted : Subscription) :
    ∃ added next, store.add chat wanted = (added, next) ∧
      added = { wanted with id := added.id, shared := false } ∧
      (∀ s ∈ store.subscriptions, s.id ≠ added.id) ∧
      next.subscriptionsOf chat = store.subscriptionsOf chat ++ [added] ∧
      (∃ user, next.userOf? chat = some user ∧ next.subscribersOf added.id = [user]) ∧
      ∀ other, other ≠ chat → next.subscriptionsOf other = store.subscriptionsOf other := by
  have hregistered := h.registered chat
  have hfresh := h.ne_nextId
  have hnone := h.linked_nextId
  have hadd : store.add chat wanted =
      let base := (store.register chat).2
      let added := { wanted with id := nextId (base.subscriptions.map (·.id)), shared := false }
      (added, (base.plusLink ⟨(store.register chat).1.id, added.id⟩).plusSubscription added) := rfl
  rw [hadd]
  generalize store.register chat = registered at hregistered ⊢
  obtain ⟨user, base⟩ := registered
  rw [← hregistered.subscriptions] at hfresh hnone
  dsimp only at hregistered ⊢
  -- the identifier is fresh, and nothing else is used of it
  generalize nextId (base.subscriptions.map (·.id)) = id at hfresh hnone ⊢
  have hfound : (base.plusLink ⟨user.id, id⟩).userOf? chat = some user := hregistered.found
  obtain ⟨hlist, hothers⟩ := hregistered.subscriptionsOf_plusLink id
  -- until the subscription is there, the link leads nowhere
  have hbefore : base.subscriptions.filter (fun s => base.linked user.id s.id || s.id == id) =
      store.subscriptionsOf chat := by
    rw [← hregistered.lists, subscriptionsOf_of_userOf? hregistered.found]
    refine List.filter_congr fun s hs => ?_
    rw [beq_false_of_ne (hfresh s hs), Bool.or_false]
  refine ⟨_, _, rfl, rfl, hregistered.subscriptions ▸ hfresh, ?_,
    ⟨user, hfound, hregistered.subscribersOf_plusLink hnone⟩, fun other hne => ?_⟩
  · rw [subscriptionsOf_plusSubscription hfound, hlist, hbefore,
      hregistered.linked_plusLink (hnone user.id), beq_self_eq_true, if_pos rfl]
  · rw [subscriptionsOf_plusSubscription_of_unlinked, hothers other hne]
    intro owner howner
    rw [hregistered.linked_plusLink (hnone owner.id)]
    exact beq_false_of_ne (hregistered.apart hne howner)

/-- **What sharing shows** is nothing, until somebody joins. -/
theorem WellFormed.view_share {wanted : Subscription}
    (hfree : store.sharedAs? wanted.aliasName = none) :
    ∃ added next, store.share wanted = (.ok added, next) ∧
      added = { wanted with id := added.id, shared := true } ∧
      (∀ s ∈ store.subscriptions, s.id ≠ added.id) ∧
      ∀ chat, next.subscriptionsOf chat = store.subscriptionsOf chat := by
  unfold Store.share
  rw [hfree]
  exact ⟨_, _, rfl, rfl, h.ne_nextId, fun chat =>
    subscriptionsOf_plusSubscription_of_unlinked fun owner _ => h.linked_nextId owner.id⟩

/-- **What joining shows**: the shared subscription, once in the list of the
chat and in no other that had it not. -/
theorem WellFormed.view_join {aliasName : String} {s : Subscription} (chat : Int64)
    (hs : store.sharedAs? aliasName = some s) :
    ∃ next, store.join chat aliasName = (.ok s, next) ∧
      (next.subscriptionsOf chat).Perm (s :: (store.subscriptionsOf chat).erase s) ∧
      (∀ other, other ≠ chat → next.subscriptionsOf other = store.subscriptionsOf other) ∧
      next.join chat aliasName = (.ok s, next) := by
  have hregistered := h.registered chat
  have hjoin : store.join chat aliasName =
      let link : Link := ⟨(store.register chat).1.id, s.id⟩
      (.ok s, if (store.register chat).2.links.contains link then (store.register chat).2
        else (store.register chat).2.plusLink link) := by
    unfold Store.join
    rw [hs]
    rfl
  rw [hjoin]
  generalize store.register chat = registered at hregistered ⊢
  obtain ⟨user, base⟩ := registered
  dsimp only at hregistered ⊢
  have hstored : s ∈ store.subscriptions := (mem_of_sharedAs? hs).1
  have hlist : store.subscriptionsOf chat =
      store.subscriptions.filter fun other => base.linked user.id other.id := by
    rw [← hregistered.lists, subscriptionsOf_of_userOf? hregistered.found,
      hregistered.subscriptions]
  have hshared : base.sharedAs? aliasName = some s := by
    rw [sharedAs?, hregistered.subscriptions, ← sharedAs?, hs]
  -- a chat that is linked already sees no change; else the list gains one
  by_cases hlink : Link.mk user.id s.id ∈ base.links
  · rw [if_pos (List.contains_iff_mem.mpr hlink)]
    refine ⟨base, rfl, ?_, fun other _ => hregistered.lists other,
      join_of_linked hshared hregistered.found hlink⟩
    rw [hregistered.lists]
    refine List.perm_cons_erase ?_
    rw [hlist]
    exact List.mem_filter.mpr ⟨hstored, linked_iff.mpr hlink⟩
  · rw [if_neg (mt List.contains_iff_mem.mp hlink)]
    obtain ⟨hmore, hothers⟩ := hregistered.subscriptionsOf_plusLink s.id
    refine ⟨_, rfl, ?_, hothers, join_of_linked hshared hregistered.found
      (List.mem_append_right _ (List.mem_singleton_self _))⟩
    rw [hmore, hregistered.subscriptions, hlist]
    exact h.filter_or_perm hstored _

/-- **What taking back shows**: the subscription gone from every list. -/
theorem WellFormed.view_unshare {aliasName : String} {s : Subscription}
    (hs : store.sharedAs? aliasName = some s) :
    ∃ next, store.unshare aliasName = (.ok s, next) ∧
      ∀ chat, next.subscriptionsOf chat = (store.subscriptionsOf chat).erase s := by
  have hunshare : store.unshare aliasName = (.ok s, store.withOnly
      (fun link => link.subscription != s.id)
      (store.subscriptions.filter fun other => other.id != s.id)) := by
    unfold Store.unshare
    rw [hs]
    rfl
  refine ⟨_, hunshare, fun chat => ?_⟩
  -- a list has a subscription once, so to erase it is to filter by its identifier
  rw [h.erase_eq_filter (mem_of_sharedAs? hs).1]
  cases huser : store.userOf? chat with
  | none =>
    rw [subscriptionsOf_of_none huser, List.filter_nil]
    exact subscriptionsOf_of_none huser
  | some user =>
    rw [subscriptionsOf_withOnly huser, subscriptionsOf_of_userOf? huser, List.filter_filter,
      List.filter_filter]
    refine List.filter_congr fun other _ => ?_
    cases other.id != s.id <;> simp

/-- **What removing shows**: the subscription gone from the list of the chat
alone, and whether it was there. -/
theorem WellFormed.view_remove (chat id : Int64) :
    ((store.remove chat id).1 = true ↔ ∃ s ∈ store.subscriptionsOf chat, s.id = id) ∧
      (∀ s ∈ store.subscriptionsOf chat, s.id = id →
        (store.remove chat id).2.subscriptionsOf chat = (store.subscriptionsOf chat).erase s) ∧
      ∀ other, other ≠ chat →
        (store.remove chat id).2.subscriptionsOf other = store.subscriptionsOf other := by
  have hlisted : ∀ s, s ∈ store.subscriptionsOf chat → ∃ user, store.userOf? chat = some user ∧
      ⟨user.id, s.id⟩ ∈ store.links := fun s hs => by
    obtain ⟨-, user, huser, hlinked⟩ := mem_subscriptionsOf hs
    exact ⟨user, huser, linked_iff.mp hlinked⟩
  -- The answer, the chat's own list and those of the others, first where there is a link to
  -- remove.
  by_cases hlink : ∃ user, store.userOf? chat = some user ∧ ⟨user.id, id⟩ ∈ store.links
  · obtain ⟨user, huser, hlink⟩ := hlink
    obtain ⟨next, hremove, husers, hview⟩ := remove_of_linked huser hlink
    rw [hremove]
    refine ⟨iff_of_true rfl ?_, fun s hs heq => ?_, fun other hne => ?_⟩
    · obtain ⟨s, hs, rfl⟩ := h.linkedSubscription _ hlink
      rw [subscriptionsOf_of_userOf? huser]
      exact ⟨s, List.mem_filter.mpr ⟨hs, linked_iff.mpr hlink⟩, rfl⟩
    · rw [hview chat user huser, h.erase_eq_filter (mem_subscriptionsOf hs).1]
      refine List.filter_congr fun other _ => ?_
      rw [Bool.eq_iff_iff, bne_iff_ne, bne_iff_ne, heq]
      simp
    · cases howner : store.userOf? other with
      | none => rw [subscriptionsOf_of_none howner, subscriptionsOf_of_none (husers other ▸ howner)]
      | some owner =>
        have hapart : owner.id ≠ user.id := mt (h.chat_eq_of_id_eq huser howner) hne
        rw [hview other owner howner, List.filter_eq_self]
        intro s _
        simp [hapart]
  · have hremove : store.remove chat id = (false, store) :=
      remove_of_not_linked fun user huser hmem => hlink ⟨user, huser, hmem⟩
    have hnone : ∀ s ∈ store.subscriptionsOf chat, s.id ≠ id := by
      rintro s hs rfl
      exact hlink (hlisted s hs)
    rw [hremove]
    exact ⟨iff_of_false Bool.false_ne_true (by simpa using hnone),
      fun s hs heq => absurd heq (hnone s hs), fun _ _ => rfl⟩

end Operations

/-! ## §5. Failures. -/

/-- A removal that says that it was in vain has left the store. -/
theorem remove_of_false {store : Store} {chat id : Int64} (h : (store.remove chat id).1 = false) :
    (store.remove chat id).2 = store := by
  unfold remove at h ⊢
  cases huser : store.userOf? chat with
  | none => rfl
  | some user =>
    simp only [huser] at h ⊢
    split at h
    · cases h
    · next hlink => rw [if_neg hlink]

/-- Only the answer to a removal can be that it was in vain. -/
theorem Change.Granted.store_of_removed_false {store next : Store} {asked : Change}
    (h : asked.Granted store (.removed false) next) : next = store := by
  -- the replies of the other changes are of another form
  generalize hreply : Reply.removed false = reply at h
  cases h with
  | remove chat id =>
    injection hreply with hfalse
    exact remove_of_false hfalse.symm
  | _ => cases hreply

/-- **A deed that fails leaves the store as it was**, whether it is refused or
finds nothing to do. -/
theorem Deed.onStore_of_failure {deed : Deed} {store : Store}
    (h : Answer.isFailure (deed.onStore store).1 = true) : (deed.onStore store).2 = store := by
  cases deed with
  | update asked =>
    rcases asked.granted_or_refused store with ⟨reply, next, happly, hgranted⟩ | ⟨e, happly⟩
    · simp only [onStore, happly, Except.map] at h ⊢
      cases reply with
      | user user => cases h
      | subscription s => cases h
      -- the one answer that is granted and still a failure: nothing was linked
      | removed wasLinked =>
        cases wasLinked with
        | true => cases h
        | false => exact hgranted.store_of_removed_false
    · simp only [onStore, happly]
  | advance timestamp =>
    simp only [onStore, Store.advance] at h ⊢
    split at h
    · cases h
    · next hold => rw [if_neg hold]
  | reopen => cases h

/-! ## §6. Every operation. -/

/-- Every operation on a well-formed store is an operation on the lists of its
chats. -/
theorem viewed_of_wellFormed {store : Store} (h : store.WellFormed) : store.Viewed where
  subscribers huser hs := h.mem_subscribersOf_iff huser hs
  register chat other := (h.registered chat).lists other
  add := h.view_add
  share := h.view_share
  join := h.view_join
  unshare := h.view_unshare
  remove := h.view_remove
  failure _ := Deed.onStore_of_failure

/-- The lists of two chats that have joined one subscription, under an
identifier that was given out before. -/
theorem rejoined_viewed :
    let wanted : Subscription := ⟨5, "b", "cat", ".img", "cats", false⟩
    let store := empty.after [.update (.add 7 wanted), .update (.remove 7 1),
      .update (.share wanted), .update (.join 7 "cats"), .update (.join 8 "cats")]
    store.WellFormed ∧ store.Viewed ∧
      store.subscriptionsOf 7 = [{ wanted with id := 1, shared := true }] := by
  intro wanted store
  have hformed : store.WellFormed :=
    (wellFormed_empty.after within_empty (by decide)).1
  exact ⟨hformed, viewed_of_wellFormed hformed, by decide⟩

end BoardRelay.Store
