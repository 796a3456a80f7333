import Mathlib

/-!
# Decoders of self-delimiting items

A `Decoder` looks at the front of a list and answers one of three things: the
list is too short to tell, the front is malformed, or the front is an item and
this is what follows it.  Its laws say that an answer other than "too short"
does not change when more input arrives, and that an item takes at least one
element.

`decodeAll` decodes as many items as the input holds.  The main result is
`decodeAll_append`: decoding an input in two pieces, where the second piece is
put behind what the first left undecoded, is decoding it at once.
-/

namespace Trpc.Lib

variable {β γ ε : Type}

/-- What a decoder says about the front of a list. -/
inductive Outcome (β γ ε : Type)
  | more
  | bad (err : ε)
  | item (value : γ) (rest : List β)

/-- A decoder of one item, with the laws that make it incremental. -/
structure Decoder (β γ ε : Type) where
  decode : List β → Outcome β γ ε
  item_append : ∀ {xs value rest} (ys : List β),
    decode xs = .item value rest → decode (xs ++ ys) = .item value (rest ++ ys)
  bad_append : ∀ {xs err} (ys : List β),
    decode xs = .bad err → decode (xs ++ ys) = .bad err
  item_length : ∀ {xs value rest},
    decode xs = .item value rest → rest.length < xs.length

/-- The items of an input, the first error, and the input that is left where
decoding stopped. -/
structure Decoded (β γ ε : Type) where
  items : List γ
  err : Option ε
  rest : List β

/-- Put items in front of a result. -/
def Decoded.after (items : List γ) (d : Decoded β γ ε) : Decoded β γ ε :=
  { d with items := items ++ d.items }

@[simp] theorem Decoded.after_items (items : List γ) (d : Decoded β γ ε) :
    (d.after items).items = items ++ d.items := rfl

@[simp] theorem Decoded.after_err (items : List γ) (d : Decoded β γ ε) :
    (d.after items).err = d.err := rfl

@[simp] theorem Decoded.after_rest (items : List γ) (d : Decoded β γ ε) :
    (d.after items).rest = d.rest := rfl

@[simp] theorem Decoded.after_nil (d : Decoded β γ ε) : d.after [] = d := rfl

theorem Decoded.after_after (xs ys : List γ) (d : Decoded β γ ε) :
    (d.after ys).after xs = d.after (xs ++ ys) := by
  simp [Decoded.after]

namespace Decoder

variable (D : Decoder β γ ε)

/-- Decode at most `fuel` items. -/
def decodeFuel : Nat → List β → Decoded β γ ε
  | 0, input => ⟨[], none, input⟩
  | fuel + 1, input =>
    match D.decode input with
    | .more => ⟨[], none, input⟩
    | .bad err => ⟨[], some err, input⟩
    | .item value rest => (decodeFuel fuel rest).after [value]

/-- Decode every item of the input.  An item takes at least one element, so
the length of the input is fuel enough. -/
def decodeAll (input : List β) : Decoded β γ ε :=
  D.decodeFuel (input.length + 1) input

/-- Fuel above the length of the input changes nothing. -/
theorem decodeFuel_eq_of_lt {m n : Nat} {input : List β}
    (hm : input.length < m) (hn : input.length < n) :
    D.decodeFuel m input = D.decodeFuel n input := by
  induction m generalizing n input with
  | zero => omega
  | succ m ih =>
    obtain ⟨n, rfl⟩ : ∃ k, n = k + 1 := ⟨n - 1, by omega⟩
    rw [decodeFuel, decodeFuel]
    cases hd : D.decode input with
    | more => rfl
    | bad err => rfl
    | item value rest =>
      have hlen := D.item_length hd
      simp only
      rw [ih (n := n) (by omega) (by omega)]

theorem decodeAll_of_more {input : List β} (h : D.decode input = .more) :
    D.decodeAll input = ⟨[], none, input⟩ := by
  rw [decodeAll, decodeFuel, h]

theorem decodeAll_of_bad {input : List β} {err : ε} (h : D.decode input = .bad err) :
    D.decodeAll input = ⟨[], some err, input⟩ := by
  rw [decodeAll, decodeFuel, h]

theorem decodeAll_of_item {input rest : List β} {value : γ}
    (h : D.decode input = .item value rest) :
    D.decodeAll input = (D.decodeAll rest).after [value] := by
  have hlen := D.item_length h
  rw [decodeAll, decodeFuel, h]
  simp only
  rw [decodeAll, D.decodeFuel_eq_of_lt (by omega) (Nat.lt_succ_self _)]

/-- Decoding in two pieces is decoding at once.  After an error the second
piece is not looked at. -/
theorem decodeAll_append (xs ys : List β) : ((D.decodeAll xs).err = none → D.decodeAll (xs ++ ys) =
        (D.decodeAll ((D.decodeAll xs).rest ++ ys)).after (D.decodeAll xs).items) ∧
    (∀ err, (D.decodeAll xs).err = some err →
      (D.decodeAll (xs ++ ys)).items = (D.decodeAll xs).items ∧
      (D.decodeAll (xs ++ ys)).err = some err) := by
  induction h : xs.length using Nat.strongRecOn generalizing xs with
  | _ n ih =>
    cases hd : D.decode xs with
    | more =>
      rw [D.decodeAll_of_more hd]
      simp
    | bad err =>
      rw [D.decodeAll_of_bad hd, D.decodeAll_of_bad (D.bad_append ys hd)]
      simp
    | item value rest =>
      have hlen := D.item_length hd
      obtain ⟨hnone, hsome⟩ := ih rest.length (h ▸ hlen) rest rfl
      rw [D.decodeAll_of_item hd, D.decodeAll_of_item (D.item_append ys hd)]
      constructor
      · intro herr
        rw [hnone herr, Decoded.after_after]
        rfl
      · intro err herr
        obtain ⟨hitems, herr'⟩ := hsome err herr
        exact ⟨by simp [hitems], herr'⟩

/-- An input that is a list of encodings, each decoded as its item, decodes to
those items. -/
theorem decodeAll_flatMap {encode : γ → List β} {values : List γ} (hnil : D.decode [] = .more)
    (h : ∀ value ∈ values, ∀ rest, D.decode (encode value ++ rest) = .item value rest) :
    D.decodeAll (values.flatMap encode) = ⟨values, none, []⟩ := by
  induction values with
  | nil => rw [List.flatMap_nil, D.decodeAll_of_more hnil]
  | cons value rest ih =>
    rw [List.flatMap_cons, D.decodeAll_of_item (h value (by simp) _),
      ih fun v hv => h v (by simp [hv])]
    rfl

end Decoder

end Trpc.Lib
