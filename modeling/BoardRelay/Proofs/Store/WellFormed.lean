/-
  BoardRelay.Proofs.Store.WellFormed
  ────────────────────────────────
  The order of a store: identifiers, chats, shared aliases and links are there
  once each, every link leads from a user to a subscription, and a personal
  subscription has one link (`Store.WellFormed`).  No clause is kept alone:
  the identifier of a subscription that is gone is given out again, and the
  next one to have it inherits no link only because none was left behind.

  A store that began empty is well formed after any deeds, as long as they
  were too few to use up the identifiers (`wellFormed_after`).
-/
import BoardRelay.Proofs.Store.Mirror
import Mathlib.Algebra.GroupWithZero.Nat
import Mathlib.Data.List.Nodup

namespace BoardRelay.Store

/-! ## §1. Well-formed stores. -/

/-- The links that lead to a subscription. -/
def linksTo (subscription : Int64) (store : Store) : List Link :=
  store.links.filter fun link => link.subscription = subscription

/-- Whether the parts of a store fit together. -/
structure WellFormed (store : Store) : Prop where
  userIds : (store.users.map (·.id)).Nodup
  chats : (store.users.map (·.chat)).Nodup
  subscriptionIds : (store.subscriptions.map (·.id)).Nodup
  aliases : (store.shared.map (·.aliasName)).Nodup
  links : store.links.Nodup
  linkedUser : ∀ link ∈ store.links, ∃ user ∈ store.users, user.id = link.user
  linkedSubscription : ∀ link ∈ store.links, ∃ s ∈ store.subscriptions, s.id = link.subscription
  personal : ∀ s ∈ store.subscriptions, s.shared = false → (store.linksTo s.id).length = 1
  userPositive : ∀ user ∈ store.users, 0 < user.id
  subscriptionPositive : ∀ s ∈ store.subscriptions, 0 < s.id

/-- Whether no identifier of a store is beyond a bound. -/
structure Within (bound : Nat) (store : Store) : Prop where
  users : ∀ user ∈ store.users, user.id.toInt ≤ bound
  subscriptions : ∀ s ∈ store.subscriptions, s.id.toInt ≤ bound

/-- The store after some deeds. -/
def after (deeds : List Deed) (store : Store) : Store :=
  deeds.foldl (fun store deed => (deed.onStore store).2) store

/-- A bound on identifiers may be raised. -/
theorem Within.mono {bound more : Nat} {store : Store} (h : store.Within bound)
    (hmore : bound ≤ more) : store.Within more where
  users user huser := Int.le_trans (h.users user huser) (Int.ofNat_le.mpr hmore)
  subscriptions s hs := Int.le_trans (h.subscriptions s hs) (Int.ofNat_le.mpr hmore)

theorem wellFormed_empty : empty.WellFormed := by
  constructor <;> simp [empty, shared]

theorem within_empty : empty.Within 0 := by
  constructor <;> simp [empty]

/-! ## §2. Fresh identifiers. -/

instance : Std.LawfulOrderMax Int64 :=
  .of_max_le_iff
    (fun a b c => by
      show (if a ≤ b then b else a) ≤ c ↔ _
      simp only [Int64.le_iff_toInt_le]
      split <;> omega)
    (fun a b => by
      show (if a ≤ b then b else a) = a ∨ (if a ≤ b then b else a) = b
      split <;> simp)

/-- Below the last word, one more is one more. -/
theorem toInt_succ {id : Int64} {bound : Nat} (hpositive : 0 ≤ id.toInt) (hid : id.toInt ≤ bound)
    (hbound : bound + 1 < Word64.half) : (id + 1).toInt = id.toInt + 1 := by
  have hhalf : Word64.half = 9223372036854775808 := rfl
  rw [Int64.toInt_add, Int64.toInt_one]
  apply Int.bmod_eq_of_le <;> omega

/-- Whether identifiers are positive and none is beyond a bound. -/
def Numbered (bound : Nat) (ids : List Int64) : Prop :=
  ∀ id ∈ ids, 0 < id ∧ id.toInt ≤ bound

/-- The next identifier is larger than all in use, as long as it is a word. -/
theorem nextId_spec {ids : List Int64} {bound : Nat} (hids : Numbered bound ids)
    (hbound : bound + 1 < Word64.half) :
    (∀ id ∈ ids, id < nextId ids) ∧ 0 < nextId ids ∧ (nextId ids).toInt ≤ bound + 1 := by
  unfold nextId
  cases hmax : ids.max? with
  | none =>
    rw [List.max?_eq_none_iff] at hmax
    subst hmax
    refine ⟨nofun, by decide, ?_⟩
    show ((0 : Int64) + 1).toInt ≤ _
    have hone : ((0 : Int64) + 1).toInt = 1 := by decide
    omega
  -- the largest identifier is in use, so it is within the bound, and one more is a word
  | some largest =>
    obtain ⟨hmem, hle⟩ := List.max?_eq_some_iff.mp hmax
    obtain ⟨hpositive, hlargest⟩ := hids largest hmem
    rw [Int64.lt_iff_toInt_lt, Int64.toInt_zero] at hpositive
    have hsucc := toInt_succ (Int.le_of_lt hpositive) hlargest hbound
    rw [Option.getD_some]
    refine ⟨fun id hid => ?_, ?_, ?_⟩
    · have hsmall := Int64.le_iff_toInt_le.mp (hle id hid)
      rw [Int64.lt_iff_toInt_lt]
      omega
    · rw [Int64.lt_iff_toInt_lt, Int64.toInt_zero]
      omega
    · omega

/-- A list without repetitions has none either after something new. -/
theorem nodup_concat_map {α β : Type} {f : α → β} {items : List α} {item : α}
    (h : (items.map f).Nodup) (hnew : ∀ other ∈ items, f other ≠ f item) :
    ((items ++ [item]).map f).Nodup := by
  rw [List.map_append, List.map_singleton]
  refine h.append (List.nodup_singleton _) (List.disjoint_singleton.mpr fun hmem => ?_)
  obtain ⟨other, hother, heq⟩ := List.mem_map.mp hmem
  exact hnew other hother heq

/-! ## §3. Users. -/

/-- A user that is found is there, under the chat that was looked for. -/
theorem mem_of_userOf? {store : Store} {chat : Int64} {user : User}
    (h : store.userOf? chat = some user) : user ∈ store.users ∧ user.chat = chat := by
  refine ⟨List.mem_of_find?_eq_some h, ?_⟩
  simpa using List.find?_some h

/-- Registering a chat touches nothing but users, and leaves one of them with
the chat. -/
theorem register_spec (chat : Int64) (store : Store) :
    (store.register chat).1 ∈ (store.register chat).2.users ∧
      (store.register chat).2.subscriptions = store.subscriptions ∧
      (store.register chat).2.links = store.links := by
  unfold register
  cases huser : store.userOf? chat with
  | some user => exact ⟨(mem_of_userOf? huser).1, rfl, rfl⟩
  | none => exact ⟨List.mem_concat_self, rfl, rfl⟩

/-- What only the users of a store know changes with them alone. -/
theorem WellFormed.withUser {store : Store} (h : store.WellFormed) {user : User}
    (hid : ∀ other ∈ store.users, other.id ≠ user.id)
    (hchat : ∀ other ∈ store.users, other.chat ≠ user.chat) (hpositive : 0 < user.id) :
    WellFormed { store with users := store.users ++ [user] } where
  userIds := nodup_concat_map h.userIds hid
  chats := nodup_concat_map h.chats hchat
  subscriptionIds := h.subscriptionIds
  aliases := h.aliases
  links := h.links
  linkedUser link hlink := by
    obtain ⟨other, hother, heq⟩ := h.linkedUser link hlink
    exact ⟨other, List.mem_append_left _ hother, heq⟩
  linkedSubscription := h.linkedSubscription
  personal := h.personal
  userPositive other hother := by
    rcases List.mem_append.mp hother with hother | hother
    · exact h.userPositive other hother
    · rwa [List.mem_singleton.mp hother]
  subscriptionPositive := h.subscriptionPositive

/-- **Registering** keeps a store in order: a new user has a fresh identifier,
and is made only for a chat without one. -/
theorem WellFormed.register {store : Store} {bound : Nat} (h : store.WellFormed)
    (hwithin : store.Within bound) (hbound : bound + 1 < Word64.half) (chat : Int64) :
    (store.register chat).2.WellFormed ∧ (store.register chat).2.Within (bound + 1) := by
  unfold Store.register
  cases huser : store.userOf? chat with
  | some user => exact ⟨h, hwithin.mono (Nat.le_succ bound)⟩
  | none =>
    -- the identifiers in use are positive and within the bound, so the next is fresh
    have hids : Numbered bound (store.users.map (·.id)) :=
      List.forall_mem_map.mpr fun user huser =>
        ⟨h.userPositive user huser, hwithin.users user huser⟩
    obtain ⟨hfresh, hpositive, hnext⟩ := nextId_spec hids hbound
    have hchat : ∀ other ∈ store.users, other.chat ≠ chat := by
      simpa [userOf?, List.find?_eq_none] using huser
    refine ⟨h.withUser (fun other hother => ?_) hchat hpositive, fun user huser => ?_,
      (hwithin.mono (Nat.le_succ bound)).subscriptions⟩
    · exact Int64.ne_of_lt (hfresh other.id (List.mem_map_of_mem hother))
    · rcases List.mem_append.mp huser with huser | huser
      · exact (hwithin.mono (Nat.le_succ bound)).users user huser
      · rw [List.mem_singleton.mp huser]
        exact hnext

/-! ## §4. Subscriptions and links. -/

/-- A new subscription comes with links of its own, one if it is personal. -/
theorem WellFormed.withSubscription {store : Store} (h : store.WellFormed) {added : Subscription}
    {more : List Link} (hid : ∀ s ∈ store.subscriptions, s.id ≠ added.id)
    (hpositive : 0 < added.id)
    (halias : added.shared = true → store.sharedAs? added.aliasName = none)
    (hmore : ∀ link ∈ more, link.subscription = added.id ∧
      ∃ user ∈ store.users, user.id = link.user)
    (honce : more.Nodup) (hpersonal : added.shared = false → more.length = 1) :
    WellFormed { store with
      links := store.links ++ more
      subscriptions := store.subscriptions ++ [added] } := by
  -- Links that were there lead to subscriptions that were there.
  have hold : ∀ link ∈ store.links, link.subscription ≠ added.id := by
    intro link hlink heq
    obtain ⟨s, hs, hsame⟩ := h.linkedSubscription link hlink
    exact hid s hs (hsame.trans heq)
  refine ⟨h.userIds, h.chats, nodup_concat_map h.subscriptionIds hid, ?_, ?_, ?_, ?_, ?_,
    h.userPositive, ?_⟩
  · show (((store.subscriptions ++ [added]).filter (·.shared)).map (·.aliasName)).Nodup
    rw [List.filter_append]
    cases hshared : added.shared with
    | false =>
      rw [List.filter_cons_of_neg (by simp [hshared]), List.filter_nil, List.append_nil]
      exact h.aliases
    | true =>
      rw [List.filter_cons_of_pos hshared, List.filter_nil]
      refine nodup_concat_map h.aliases fun other hother => ?_
      obtain ⟨hmem, hother⟩ := List.mem_filter.mp hother
      have hfree := halias hshared
      simp only [sharedAs?, List.find?_eq_none, Bool.and_eq_true, decide_eq_true_eq,
        not_and] at hfree
      exact hfree other hmem hother
  · refine List.nodup_append.mpr ⟨h.links, honce, fun link hlink other hother heq => ?_⟩
    exact hold link hlink (heq ▸ (hmore other hother).1)
  · intro link hlink
    rcases List.mem_append.mp hlink with hlink | hlink
    · exact h.linkedUser link hlink
    · exact (hmore link hlink).2
  · intro link hlink
    rcases List.mem_append.mp hlink with hlink | hlink
    · obtain ⟨s, hs, heq⟩ := h.linkedSubscription link hlink
      exact ⟨s, List.mem_append_left _ hs, heq⟩
    · exact ⟨added, List.mem_concat_self, (hmore link hlink).1.symm⟩
  · -- A personal subscription is an old one, to which none of the new links leads, or the new one,
    -- to which no old link leads.
    intro s hs hshared
    show ((store.links ++ more).filter _).length = 1
    rw [List.filter_append, List.length_append]
    rcases List.mem_append.mp hs with hs | hs
    · have hnone : more.filter (fun link => link.subscription = s.id) = [] := by
        rw [List.filter_eq_nil_iff]
        intro link hlink
        simpa [(hmore link hlink).1] using Ne.symm (hid s hs)
      rw [hnone, List.length_nil, Nat.add_zero]
      exact h.personal s hs hshared
    · rw [List.mem_singleton] at hs
      subst hs
      have hnone : store.links.filter (fun link => link.subscription = s.id) = [] := by
        rw [List.filter_eq_nil_iff]
        intro link hlink
        simpa using hold link hlink
      have hall : more.filter (fun link => link.subscription = s.id) = more := by
        rw [List.filter_eq_self]
        intro link hlink
        simpa using (hmore link hlink).1
      rw [hnone, hall, List.length_nil, Nat.zero_add]
      exact hpersonal hshared
  · intro s hs
    rcases List.mem_append.mp hs with hs | hs
    · exact h.subscriptionPositive s hs
    · rwa [List.mem_singleton.mp hs]

/-- A shared subscription takes any number of links. -/
theorem WellFormed.withLink {store : Store} (h : store.WellFormed) {user : User}
    {joined : Subscription} (huser : user ∈ store.users) (hjoined : joined ∈ store.subscriptions)
    (hshared : joined.shared = true) (hnew : Link.mk user.id joined.id ∉ store.links) :
    WellFormed { store with links := store.links ++ [⟨user.id, joined.id⟩] } := by
  refine ⟨h.userIds, h.chats, h.subscriptionIds, h.aliases, ?_, ?_, ?_, ?_, h.userPositive,
    h.subscriptionPositive⟩
  · exact h.links.append (List.nodup_singleton _) (List.disjoint_singleton.mpr hnew)
  · intro link hlink
    rcases List.mem_append.mp hlink with hlink | hlink
    · exact h.linkedUser link hlink
    · exact ⟨user, huser, by rw [List.mem_singleton.mp hlink]⟩
  · intro link hlink
    rcases List.mem_append.mp hlink with hlink | hlink
    · exact h.linkedSubscription link hlink
    · exact ⟨joined, hjoined, by rw [List.mem_singleton.mp hlink]⟩
  · intro s hs hpersonal
    -- one identifier, one subscription: the joined one is another
    have hne : joined.id ≠ s.id := by
      intro heq
      rw [List.inj_on_of_nodup_map h.subscriptionIds hjoined hs heq, hpersonal] at hshared
      cases hshared
    show ((store.links ++ [_]).filter _).length = 1
    rw [List.filter_append, List.filter_cons_of_neg (by simpa using hne), List.filter_nil,
      List.append_nil]
    exact h.personal s hs hpersonal

/-- Links and subscriptions may go if no link outlives its subscription and no
personal subscription its link. -/
theorem WellFormed.without {store : Store} (h : store.WellFormed) {keepsLink : Link → Bool}
    {keeps : Subscription → Bool}
    (hlinks : ∀ link ∈ store.links, keepsLink link = true →
      ∀ s ∈ store.subscriptions, s.id = link.subscription → keeps s = true)
    (hpersonal : ∀ s ∈ store.subscriptions, keeps s = true → s.shared = false →
      ∀ link ∈ store.links, link.subscription = s.id → keepsLink link = true) :
    WellFormed { store with
      links := store.links.filter keepsLink
      subscriptions := store.subscriptions.filter keeps } := by
  refine ⟨h.userIds, h.chats, h.subscriptionIds.sublist (List.filter_sublist.map _),
    h.aliases.sublist ((List.filter_sublist.filter _).map _), h.links.filter _, ?_, ?_, ?_,
    h.userPositive, ?_⟩
  · exact fun link hlink => h.linkedUser link (List.mem_filter.mp hlink).1
  · intro link hlink
    obtain ⟨hlink, hkept⟩ := List.mem_filter.mp hlink
    obtain ⟨s, hs, heq⟩ := h.linkedSubscription link hlink
    exact ⟨s, List.mem_filter.mpr ⟨hs, hlinks link hlink hkept s hs heq⟩, heq⟩
  · intro s hs hshared
    obtain ⟨hs, hkept⟩ := List.mem_filter.mp hs
    -- a personal subscription that is kept keeps its link
    have hsame : (store.links.filter keepsLink).filter (fun link => link.subscription = s.id) =
        store.linksTo s.id := by
      rw [List.filter_filter]
      refine List.filter_congr fun link hlink => ?_
      by_cases heq : link.subscription = s.id
      · simp [heq, hpersonal s hs hkept hshared link hlink heq]
      · simp [heq]
    show ((store.links.filter keepsLink).filter _).length = 1
    rw [hsame]
    exact h.personal s hs hshared
  · exact fun s hs => h.subscriptionPositive s (List.mem_filter.mp hs).1

/-- What goes away exceeds no bound. -/
theorem Within.without {bound : Nat} {store : Store} (h : store.Within bound)
    {links : List Link} (keeps : Subscription → Bool) :
    Within bound { store with links, subscriptions := store.subscriptions.filter keeps } where
  users := h.users
  subscriptions s hs := h.subscriptions s (List.mem_filter.mp hs).1

/-! ## §5. One deed. -/

/-- A subscription under the next identifier. -/
theorem WellFormed.numbered {store : Store} {bound : Nat} (h : store.WellFormed)
    (hwithin : ∀ s ∈ store.subscriptions, s.id.toInt ≤ bound) (hbound : bound + 1 < Word64.half) :
    (∀ s ∈ store.subscriptions, s.id ≠ nextId (store.subscriptions.map (·.id))) ∧
      0 < nextId (store.subscriptions.map (·.id)) ∧
      (nextId (store.subscriptions.map (·.id))).toInt ≤ bound + 1 := by
  have hids : Numbered bound (store.subscriptions.map (·.id)) :=
    List.forall_mem_map.mpr fun s hs => ⟨h.subscriptionPositive s hs, hwithin s hs⟩
  obtain ⟨hfresh, hpositive, hnext⟩ := nextId_spec hids hbound
  exact ⟨fun s hs => Int64.ne_of_lt (hfresh s.id (List.mem_map_of_mem hs)), hpositive, hnext⟩

/-- **Adding** keeps a store in order: the user is registered, the identifier
is fresh, and the one link is the one that a personal subscription has. -/
theorem WellFormed.add {store : Store} {bound : Nat} (h : store.WellFormed)
    (hwithin : store.Within bound) (hbound : bound + 1 < Word64.half) (chat : Int64)
    (wanted : Subscription) :
    (store.add chat wanted).2.WellFormed ∧ (store.add chat wanted).2.Within (bound + 1) := by
  obtain ⟨hformed, hwithin'⟩ := h.register hwithin hbound chat
  obtain ⟨huser, hsubscriptions, -⟩ := register_spec chat store
  obtain ⟨hid, hpositive, hnext⟩ := hformed.numbered (hsubscriptions ▸ hwithin.subscriptions) hbound
  -- the store after registering is in order, and the subscription is added to that
  refine ⟨hformed.withSubscription hid hpositive nofun ?_ (List.nodup_singleton _) fun _ => rfl,
    hwithin'.users, fun s hs => ?_⟩
  · intro link hlink
    rw [List.mem_singleton.mp hlink]
    exact ⟨rfl, _, huser, rfl⟩
  · rcases List.mem_append.mp hs with hs | hs
    · exact hwithin'.subscriptions s hs
    · rw [List.mem_singleton.mp hs]
      exact hnext

/-- **Sharing** keeps a store in order: the alias was free, and nobody is
linked to what was added. -/
theorem WellFormed.share {store next : Store} {bound : Nat} (h : store.WellFormed)
    (hwithin : store.Within bound) (hbound : bound + 1 < Word64.half) {wanted added : Subscription}
    (hshare : store.share wanted = (.ok added, next)) :
    next.WellFormed ∧ next.Within (bound + 1) := by
  obtain ⟨hfree, rfl, rfl⟩ := share_eq_ok hshare
  obtain ⟨hid, hpositive, hnext⟩ := h.numbered hwithin.subscriptions hbound
  refine ⟨?_, (hwithin.mono (Nat.le_succ bound)).users, fun s hs => ?_⟩
  · -- nobody is linked to it yet
    rw [← List.append_nil store.links]
    exact h.withSubscription hid hpositive (fun _ => hfree) nofun List.nodup_nil nofun
  · rcases List.mem_append.mp hs with hs | hs
    · exact (hwithin.mono (Nat.le_succ bound)).subscriptions s hs
    · rw [List.mem_singleton.mp hs]
      exact hnext

/-- A subscription that is found by its alias is there, and is shared. -/
theorem mem_of_sharedAs? {store : Store} {aliasName : String} {found : Subscription}
    (h : store.sharedAs? aliasName = some found) :
    found ∈ store.subscriptions ∧ found.shared = true := by
  refine ⟨List.mem_of_find?_eq_some h, ?_⟩
  have hfound := List.find?_some h
  simp only [Bool.and_eq_true] at hfound
  exact hfound.1

/-- **Joining** keeps a store in order: a link that was there is not added
again. -/
theorem WellFormed.join {store next : Store} {bound : Nat} (h : store.WellFormed)
    (hwithin : store.Within bound) (hbound : bound + 1 < Word64.half) {chat : Int64}
    {aliasName : String} {joined : Subscription}
    (hjoin : store.join chat aliasName = (.ok joined, next)) :
    next.WellFormed ∧ next.Within (bound + 1) := by
  obtain ⟨hfound, rfl⟩ := join_eq_ok hjoin
  obtain ⟨hmem, hshared⟩ := mem_of_sharedAs? hfound
  obtain ⟨hformed, hwithin'⟩ := h.register hwithin hbound chat
  obtain ⟨huser, hsubscriptions, -⟩ := register_spec chat store
  -- the chat is linked already, or the link is new and both its ends are there
  unfold linkOnce
  split
  · exact ⟨hformed, hwithin'⟩
  · next hnew =>
    refine ⟨hformed.withLink huser (hsubscriptions ▸ hmem) hshared ?_, hwithin'.users,
      hwithin'.subscriptions⟩
    simpa using hnew

/-- **Taking back** keeps a store in order: the links go with the subscription. -/
theorem WellFormed.unshare {store next : Store} (h : store.WellFormed) {aliasName : String}
    {removed : Subscription} (hunshare : store.unshare aliasName = (.ok removed, next)) :
    next.WellFormed := by
  obtain ⟨-, rfl⟩ := unshare_eq_ok hunshare
  refine h.without (fun link _ hkept s _ heq => ?_) (fun s _ hkept _ link _ heq => ?_)
  · rwa [heq]
  · rwa [heq]

/-- **Removing** keeps a store in order: a personal subscription goes with its
only link, a shared one stays. -/
theorem WellFormed.remove {store : Store} (h : store.WellFormed) (chat id : Int64) :
    (store.remove chat id).2.WellFormed := by
  unfold Store.remove
  cases store.userOf? chat with
  | none => exact h
  | some user =>
    by_cases hlinked : store.links.contains ⟨user.id, id⟩ = true
    · simp only [hlinked, if_true]
      unfold dropOrphan
      split
      · next hothers =>
        -- A personal subscription has no link besides the one that goes.
        have hall : store.subscriptions = store.subscriptions.filter fun _ => true := by simp
        rw [hall]
        refine h.without (fun _ _ _ _ _ _ => rfl) fun s hs _ hshared link hlink heq => ?_
        rw [bne_iff_ne]
        rintro rfl
        obtain ⟨only, honly⟩ := List.length_eq_one_iff.mp (h.personal s hs hshared)
        have heach : ∀ other ∈ store.links, other.subscription = s.id → other = only := by
          intro other hother hsame
          have hmem : other ∈ store.linksTo s.id :=
            List.mem_filter.mpr ⟨hother, decide_eq_true hsame⟩
          rwa [honly, List.mem_singleton] at hmem
        -- another link would lead to it, and a personal subscription has one
        obtain ⟨other, hother, hsame⟩ := List.any_eq_true.mp hothers
        obtain ⟨hother, hne⟩ := List.mem_filter.mp hother
        rw [bne_iff_ne] at hne
        rw [decide_eq_true_eq] at hsame
        exact hne ((heach other hother (hsame.trans heq)).trans (heach _ hlink heq).symm)
      · next hnone =>
        simp only [List.any_eq_true, List.mem_filter, decide_eq_true_eq, not_exists,
          not_and] at hnone
        refine h.without (fun link hlink hkept s _ heq => ?_)
          (fun s _ hkept hshared link _ heq => ?_)
        · have hne := hnone link ⟨hlink, hkept⟩
          simp [heq, hne]
        · rw [bne_iff_ne]
          rintro rfl
          simp [← heq, hshared] at hkept
    · simp only [hlinked]
      exact h

/-- Removing gives out no identifier. -/
theorem Within.remove {bound : Nat} {store : Store} (h : store.Within bound) (chat id : Int64) :
    (store.remove chat id).2.Within bound := by
  unfold Store.remove
  cases store.userOf? chat with
  | none => exact h
  | some user =>
    dsimp only
    split
    · unfold dropOrphan
      split
      · exact ⟨h.users, h.subscriptions⟩
      · exact h.without _
    · exact h

theorem Within.unshare {store next : Store} {bound : Nat} (h : store.Within bound)
    {aliasName : String} {removed : Subscription}
    (hunshare : store.unshare aliasName = (.ok removed, next)) : next.Within bound := by
  obtain ⟨-, rfl⟩ := unshare_eq_ok hunshare
  exact h.without _

/-- A change leaves a well-formed store, with at most one identifier of each
kind used up. -/
theorem WellFormed.granted {store next : Store} {bound : Nat} (h : store.WellFormed)
    (hwithin : store.Within bound) (hbound : bound + 1 < Word64.half) {asked : Change}
    {reply : Reply} (hgranted : asked.Granted store reply next) :
    next.WellFormed ∧ next.Within (bound + 1) := by
  cases hgranted with
  | register chat => exact h.register hwithin hbound chat
  | add chat wanted => exact h.add hwithin hbound chat wanted
  | share _ hshare => exact h.share hwithin hbound hshare
  | join hjoin => exact h.join hwithin hbound hjoin
  | unshare hunshare =>
    exact ⟨h.unshare hunshare, (hwithin.unshare hunshare).mono (Nat.le_succ bound)⟩
  | remove chat id =>
    exact ⟨h.remove chat id, (hwithin.remove chat id).mono (Nat.le_succ bound)⟩

/-- So does every deed; the cursor has no part in the order of a store. -/
theorem WellFormed.onStore {store : Store} {bound : Nat} (h : store.WellFormed)
    (hwithin : store.Within bound) (hbound : bound + 1 < Word64.half) (deed : Deed) :
    (deed.onStore store).2.WellFormed ∧ (deed.onStore store).2.Within (bound + 1) := by
  have hmore := hwithin.mono (Nat.le_succ bound)
  cases deed with
  | update asked =>
    rcases asked.granted_or_refused store with ⟨reply, next, happly, hgranted⟩ | ⟨e, happly⟩
    · simp only [Deed.onStore, happly]
      exact h.granted hwithin hbound hgranted
    · -- a change that was refused has left the store
      simp only [Deed.onStore, happly]
      exact ⟨h, hmore⟩
  | advance timestamp =>
    simp only [Deed.onStore, Store.advance]
    split
    · exact ⟨{ h with }, { hmore with }⟩
    · exact ⟨h, hmore⟩
  | reopen => exact ⟨h, hmore⟩

/-! ## §6. Every run. -/

/-- **The run invariant**: each deed uses up at most one identifier of a kind,
so that many deeds keep a store in order while the bound leaves room for them. -/
theorem WellFormed.after {store : Store} {bound : Nat} (h : store.WellFormed)
    (hwithin : store.Within bound) {deeds : List Deed}
    (hbound : bound + deeds.length < Word64.half) :
    (store.after deeds).WellFormed ∧ (store.after deeds).Within (bound + deeds.length) := by
  -- the bound that a deed leaves is the one that the rest of the run starts with
  induction deeds generalizing store bound with
  | nil => exact ⟨h, hwithin⟩
  | cons deed deeds ih =>
    rw [List.length_cons, ← Nat.add_assoc, Nat.add_right_comm] at hbound ⊢
    obtain ⟨hformed, hwithin'⟩ := h.onStore hwithin (by omega) deed
    exact ih hformed hwithin' hbound

/-- A store that began empty is well formed after any deeds, if they are fewer
than there are positive identifiers. -/
theorem wellFormed_after (deeds : List Deed) (hfew : deeds.length < 2 ^ 63 - 1) :
    (empty.after deeds).WellFormed := by
  refine (wellFormed_empty.after within_empty ?_).1
  have hhalf : Word64.half = 2 ^ 63 := rfl
  omega

/-- Two chats at one shared subscription, after a personal one has come and
gone and its identifier was given out again. -/
theorem reused_identifier_wellFormed :
    let wanted : Subscription := ⟨5, "b", "cat", ".img", "cats", true⟩
    let store : Store := ⟨[⟨1, 7⟩, ⟨2, 8⟩], [{ wanted with id := 1 }], [⟨1, 1⟩, ⟨2, 1⟩], 3⟩
    let deeds : List Deed := [.update (.add 7 wanted), .update (.remove 7 1),
      .update (.share wanted), .update (.join 7 "cats"), .update (.join 8 "cats"),
      .update (.join 8 "cats"), .advance 3]
    deeds.length < 2 ^ 63 - 1 ∧ empty.after deeds = store ∧ store.WellFormed := by
  intro wanted store deeds
  have hfew : deeds.length < 2 ^ 63 - 1 := by decide
  have hafter : empty.after deeds = store := by decide
  exact ⟨hfew, hafter, hafter ▸ wellFormed_after deeds hfew⟩

end BoardRelay.Store
