/-
  BoardRelay.Proofs.Store.RoundTrip
  ────────────────────────────────
  What is written of a store is read back as that store: every record gives
  its fields again (`knownMembers_record`), every word its number, and the
  text of the document its value.
-/
import BoardRelay.Proofs.Json.RoundTrip
import BoardRelay.Store.Record

namespace BoardRelay

/-! ## §1. Words. -/

/-- A signed word is read from its own number. -/
theorem Word64.signed?_toInt (x : Int64) : Word64.signed? x.toInt = some x := by
  have hlow : -Word64.half ≤ x.toInt := x.le_toInt
  have hhigh : x.toInt < Word64.half := x.toInt_lt
  rw [Word64.signed?, if_pos ⟨hlow, hhigh⟩, Int64.ofInt_toInt]

/-- So is an unsigned word: its number is below the count of words. -/
theorem Word64.unsigned?_toNat (x : UInt64) : Word64.unsigned? x.toNat = some x := by
  have hhigh : (x.toNat : Int) < Word64.count := Int.ofNat_lt.mpr x.toNat_lt
  rw [Word64.unsigned?, if_pos ⟨Int.natCast_nonneg _, hhigh⟩, Int.toNat_natCast, UInt64.ofNat_toNat]

/-! ## §2. Records. -/

namespace Json

/-- A record that gives every field at most once, and no others, is read as
what it gives. -/
theorem knownMembers_record {names : List String} {members : Fields}
    (hknown : ∀ entry ∈ members, entry.1 ∈ names) (honce : (members.map (·.1)).Nodup) :
    knownMembers names (members.map fun (name, value) => (some name, value)) = some members := by
  -- By the members in turn; what is looked up is whether those behind give the name too.
  induction members with
  | nil => rfl
  | cons entry members ih =>
    obtain ⟨name, value⟩ := entry
    rw [List.map_cons, List.nodup_cons] at honce
    have hname : names.contains name = true :=
      List.contains_iff_mem.mpr (hknown (name, value) List.mem_cons_self)
    -- the name does not come again, or it would have been given twice
    have hfresh : members.lookup name = none := by
      rw [List.lookup_eq_none_iff]
      intro other hother
      rw [bne_iff_ne]
      intro heq
      exact honce.1 (List.mem_map.mpr ⟨other, hother, heq.symm⟩)
    have hothers := ih (fun other hother => hknown other (List.mem_cons_of_mem _ hother)) honce.2
    simp only [List.map_cons, knownMembers, hothers, Option.bind_eq_bind, Option.bind_some, hname,
      hfresh]
    rfl

/-- So a record in the order of its names is read as its members, whatever is
done with others. -/
theorem fields_record (surplus : Surplus) {names : List String} {members : Fields}
    (hknown : ∀ entry ∈ members, entry.1 ∈ names) (honce : (members.map (·.1)).Nodup) :
    fields surplus names (record members) = some members :=
  knownMembers_record hknown honce

/-- A list is read back if each of its items is. -/
theorem asList_map {α : Type} {encode : α → Json} {decoder : Decoder α}
    (hitem : ∀ item, decoder (encode item) = some item) (items : List α) :
    asList decoder (.array (items.map encode)) = some items := by
  rw [asList]
  induction items with
  | nil => rfl
  | cons item items ih =>
    rw [List.map_cons, List.mapM_cons, hitem, ih]
    rfl

end Json

/-! ## §3. The records of a store. -/

open BoardRelay.Json

/-- A user is read from the user's record. -/
theorem User.decode_encode (user : User) : User.decode user.encode = some user := by
  rw [User.decode, User.encode, fields_record .refused (by simp) (by simp)]
  simp [required, List.lookup_cons, asSignedWord, Word64.signed?_toInt]

/-- So is a subscription, its two texts that may be left out included. -/
theorem Subscription.decode_encode (s : Subscription) :
    Subscription.decode s.encode = some s := by
  rw [Subscription.decode, Subscription.encode, fields_record .refused (by simp) (by simp)]
  simp [required, Json.optional, List.lookup_cons, asSignedWord, asText, asBoolean,
    Word64.signed?_toInt]

theorem Link.decode_encode (link : Link) : Link.decode link.encode = some link := by
  rw [Link.decode, Link.encode, fields_record .refused (by simp) (by simp)]
  simp [required, List.lookup_cons, asSignedWord, Word64.signed?_toInt]

namespace Store

/-- **A store is read from its record**: users, subscriptions and links one by
one, and the cursor. -/
theorem decode_encode (store : Store) : Store.decode store.encode = some store := by
  rw [Store.decode, Store.encode, fields_record .refused (by simp) (by simp)]
  simp [Json.optional, List.lookup_cons, asList_map User.decode_encode,
    asList_map Subscription.decode_encode, asList_map Link.decode_encode, asWord,
    Word64.unsigned?_toNat]

/-- What is written of a store is read back as that store. -/
theorem read?_write (store : Store) : Store.read? store.write = some store := by
  rw [Store.read?, Store.write, Json.read?_encode_print, Option.bind_some, decode_encode]

end Store

end BoardRelay
