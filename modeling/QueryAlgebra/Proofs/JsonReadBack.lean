import QueryAlgebra.Proofs.Entries
import QueryAlgebra.Proofs.Numerals

/-!
# Reading back JSON texts

The written form of a value, read, gives the value again, provided that no object
within it has a key twice: an object that repeats a key has no written form from
which it could come back, since reading merges the two fields.  Every value that
reading gives is of this kind.  So whatever is read and written back is unchanged.

The reader goes by fuel.  One unit more than the characters that are left is
always enough, and every step of the reader takes at least one character.

Main results:

- Theorems `unit?_hexDigits` and `stringBody_charText`: every character of a string
  is read back, whichever of its escapes is used.
- Theorem `valueAt_render`: a value is read back in front of any text that may
  follow a value.
- Theorem `parse_render`: the written form of a value is read as that value.
- Theorem `keyed_of_parse`: what is read has no key twice.
-/

namespace QueryAlgebra
namespace Json

open Scan

/-! ## Escapes -/

/-- A hexadecimal digit has its value. -/
theorem hexValue?_digitChar : ∀ d < 16, hexValue? (Nat.digitChar d) = some d := by
  decide

/-- The last of at least two digits is the remainder, and the others are those of the quotient. -/
theorem padded_hexDigits (k n : Nat) :
    List.replicate (k + 2 - (Nat.toDigits 16 n).length) '0' ++ Nat.toDigits 16 n =
      List.replicate (k + 1 - (Nat.toDigits 16 (n / 16)).length) '0' ++
        Nat.toDigits 16 (n / 16) ++ [Nat.digitChar (n % 16)] := by
  rcases Nat.lt_or_ge n 16 with hsmall | hlarge
  · rw [Nat.toDigits_of_lt_base hsmall, Nat.div_eq_of_lt hsmall, Nat.mod_eq_of_lt hsmall,
      Nat.toDigits_zero]
    simp only [List.length_singleton, Nat.add_sub_cancel, Nat.reduceSubDiff,
      ← List.replicate_succ']
  · rw [Nat.toDigits_of_base_le (by decide) hlarge]
    simp

/-- The four digits of a unit, each on its own. -/
theorem hexDigits_eq {n : Nat} (hn : n < 65536) :
    hexDigits n = [Nat.digitChar (n / 4096), Nat.digitChar (n / 256 % 16),
      Nat.digitChar (n / 16 % 16), Nat.digitChar (n % 16)] := by
  have hfirst : n / 16 / 16 / 16 < 16 := by omega
  rw [hexDigits, padded_hexDigits 2 n, padded_hexDigits 1 (n / 16),
    padded_hexDigits 0 (n / 16 / 16), Nat.toDigits_of_lt_base hfirst]
  simp [Nat.div_div_eq_div_mul]

/-- Four hexadecimal digits are read back. -/
theorem unit?_hexDigits {n : Nat} (hn : n < 65536) (rest : Text) :
    unit? (hexDigits n ++ rest) = some (n, rest) := by
  rw [hexDigits_eq hn]
  simp only [List.cons_append, List.nil_append, unit?, hexValue?_digitChar (n / 4096) (by omega),
    hexValue?_digitChar (n / 256 % 16) (by omega), hexValue?_digitChar (n / 16 % 16) (by omega),
    hexValue?_digitChar (n % 16) (by omega), Option.bind_eq_bind, Option.bind_some,
    Option.some.injEq, Prod.mk.injEq, and_true]
  omega

/-! ## Strings -/

/-- A character is no half of a pair. -/
theorem toNat_not_surrogate (c : Char) : ¬ (0xD800 ≤ c.toNat ∧ c.toNat ≤ 0xDFFF) := by
  rintro ⟨hlow, hhigh⟩
  rcases c.valid with hbelow | habove
  · change c.toNat < 0xD800 at hbelow
    omega
  · have habove' : 0xDFFF < c.toNat := habove.1
    omega

theorem toNat_lt (c : Char) : c.toNat < 0x110000 := by
  rcases c.valid with hbelow | habove
  · change c.toNat < 0xD800 at hbelow
    omega
  · exact habove.2

/-- The number of a character stands for it. -/
theorem escapedChar_of_plain {c : Char} (rest : Text) : escapedChar c.toNat rest = (c, rest) := by
  have hplain := toNat_not_surrogate c
  have hhigh : ¬ (0xD800 ≤ c.toNat ∧ c.toNat ≤ 0xDBFF) := by omega
  have hlow : ¬ (0xDC00 ≤ c.toNat ∧ c.toNat ≤ 0xDFFF) := by omega
  unfold escapedChar
  rw [if_neg hhigh, if_neg hlow, Char.ofNat_toNat]

/-- The two halves of a pair stand for a number beyond the first plane. -/
structure IsPair (high low n : Nat) : Prop where
  high_le : 0xD800 ≤ high
  le_high : high ≤ 0xDBFF
  low_le : 0xDC00 ≤ low
  le_low : low ≤ 0xDFFF
  value : 0x10000 + (high - 0xD800) * 0x400 + (low - 0xDC00) = n

/-- A character beyond the basic plane is written as a pair of units. -/
theorem exists_pair_of_numberEscape (c : Char) (hc : ¬ c.toNat < 0x10000) :
    ∃ high low, IsPair high low c.toNat ∧
      numberEscape c.toNat = unitEscape high ++ unitEscape low := by
  have hlt := toNat_lt c
  generalize c.toNat = n at hc hlt ⊢
  refine ⟨0xD800 + (n - 0x10000) / 0x400, 0xDC00 + (n - 0x10000) % 0x400, ?_, ?_⟩
  · constructor <;> omega
  · rw [numberEscape, if_neg hc]

/-- The two halves of a pair are put together. -/
theorem escapedChar_of_pair {c : Char} {high low : Nat} (hpair : IsPair high low c.toNat)
    {rest : Text} (hrest : rest ≠ []) :
    escapedChar high (unitEscape low ++ rest) = (c, rest) := by
  have hunit : unit? (hexDigits low ++ rest) = some (low, rest) :=
    unit?_hexDigits (by have := hpair.le_low; omega) rest
  unfold escapedChar
  rw [if_pos ⟨hpair.high_le, hpair.le_high⟩]
  simp only [unitEscape, List.cons_append, List.nil_append, hunit,
    if_pos (And.intro hpair.low_le (And.intro hpair.le_low hrest)), hpair.value, Char.ofNat_toNat]

section StringBody

variable (start : Text) (fuel : Nat) {rest : Text}

/-- An escaped unit is read, together with the one behind it if they are a pair. -/
theorem stringBody_unitEscape {unit : Nat} (hunit : unit < 65536) (hrest : rest ≠ []) :
    stringBody start (fuel + 1) (unitEscape unit ++ rest) =
      (stringBody start fuel (escapedChar unit rest).2).map fun (s, left) =>
        ((escapedChar unit rest).1 :: s, left) := by
  obtain ⟨d, more, rfl⟩ := List.exists_cons_of_ne_nil hrest
  simp [unitEscape, stringBody, unit?_hexDigits hunit]

/-- A character by its number. -/
theorem stringBody_numberEscape (c : Char) (hrest : rest ≠ []) :
    stringBody start (fuel + 1) (numberEscape c.toNat ++ rest) =
      (stringBody start fuel rest).map fun (s, left) => (c :: s, left) := by
  by_cases hplain : c.toNat < 0x10000
  · rw [numberEscape, if_pos hplain, stringBody_unitEscape start fuel hplain hrest,
      escapedChar_of_plain]
  · obtain ⟨high, low, hpair, htext⟩ := exists_pair_of_numberEscape c hplain
    have hhigh : high < 65536 := by
      have := hpair.le_high
      omega
    rw [htext, List.append_assoc, stringBody_unitEscape start fuel hhigh (by simp [unitEscape]),
      escapedChar_of_pair hpair hrest]

/-- A short escape is read. -/
theorem stringBody_shortEscape {e c : Char} (he : e ≠ 'u') (hc : shortEscape? e = some c) :
    stringBody start (fuel + 1) ('\\' :: e :: rest) =
      (stringBody start fuel rest).map fun (s, left) => (c :: s, left) := by
  simp [stringBody, he, hc]

/-- A character that stands for itself. -/
theorem stringBody_self {c : Char} (hquote : c ≠ '"') (hescape : c ≠ '\\')
    (hcontrol : 0x20 ≤ c.toNat) :
    stringBody start (fuel + 1) (c :: rest) =
      (stringBody start fuel rest).map fun (s, left) => (c :: s, left) := by
  simp [stringBody, hquote, hescape, not_lt.mpr hcontrol]

/-- One step of the reader takes one written character. -/
theorem stringBody_charText (c : Char) (hrest : rest ≠ []) :
    stringBody start (fuel + 1) (charText c ++ rest) =
      (stringBody start fuel rest).map fun (s, left) => (c :: s, left) := by
  unfold charText
  split_ifs with hquote hescape _ _ _ _ _ hprintable
  -- All but the last two cases are characters with a short escape of their own.
  any_goals
    subst c
    exact stringBody_shortEscape start fuel (by decide) rfl
  · exact stringBody_self start fuel hquote hescape hprintable.1
  · exact stringBody_numberEscape start fuel c hrest

end StringBody

/-- A quoted text is read back. -/
theorem stringBody_flatMap (start : Text) (s rest : Text) {fuel : Nat} (hfuel : s.length < fuel) :
    stringBody start fuel (s.flatMap charText ++ '"' :: rest) = .ok (s, rest) := by
  induction s generalizing fuel with
  | nil =>
      obtain ⟨k, rfl⟩ : ∃ k, fuel = k + 1 := ⟨fuel - 1, by simp at hfuel; omega⟩
      simp [stringBody]
  | cons c s ih =>
      obtain ⟨k, rfl⟩ : ∃ k, fuel = k + 1 := ⟨fuel - 1, by simp at hfuel; omega⟩
      have hk : s.length < k := by simpa using hfuel
      rw [List.flatMap_cons, List.append_assoc, stringBody_charText start k c (by simp), ih hk]
      rfl

@[simp] theorem numberEscape_ne_nil (n : Nat) : numberEscape n ≠ [] := by
  rw [numberEscape]
  split <;> exact List.cons_ne_nil _ _

@[simp] theorem charText_ne_nil (c : Char) : charText c ≠ [] := by
  have hnumber := numberEscape_ne_nil c.toNat
  unfold charText
  split_ifs <;> simp [hnumber]

/-- A quoted text is longer than the text by its quotes at least. -/
theorem length_le_quoted (s : Text) : s.length + 2 ≤ (quoted s).length := by
  have hlength : s.length ≤ (s.flatMap charText).length := by
    induction s with
    | nil => simp
    | cons c s ih =>
        have hpos := List.length_pos_of_ne_nil (charText_ne_nil c)
        simp only [List.flatMap_cons, List.length_append, List.length_cons]
        omega
  simp only [quoted, List.length_append, List.length_singleton]
  omega

/-- Strings are read back. -/
theorem string_quoted (s : String) (rest : Text) {fuel : Nat}
    (hfuel : (quoted s.toList).length ≤ fuel) :
    string fuel (quoted s.toList ++ rest) = .ok (s, rest) := by
  have hlength := length_le_quoted s.toList
  have htext : (quoted s.toList ++ rest).drop 1 = s.toList.flatMap charText ++ '"' :: rest := by
    simp [quoted]
  rw [string, htext, stringBody_flatMap _ s.toList rest (by omega)]
  simp [Except.map]

/-! ## Keys -/

/-- The keys of an object, in their order. -/
def keys (fields : List (String × Json)) : List String :=
  fields.map Prod.fst

mutual

/-- No object within the value has a key twice. -/
def Keyed : Json → Prop
  | arr items => KeyedItems items
  | obj fields => (keys fields).Nodup ∧ KeyedFields fields
  | _ => True

/-- No object within the items has a key twice. -/
def KeyedItems : List Json → Prop
  | [] => True
  | item :: rest => Keyed item ∧ KeyedItems rest

/-- No object within the values of the fields has a key twice. -/
def KeyedFields : List (String × Json) → Prop
  | [] => True
  | (_, value) :: rest => Keyed value ∧ KeyedFields rest

end

/-- Fields have no key twice within them if none of their values has. -/
theorem keyedFields_iff {fields : List (String × Json)} :
    KeyedFields fields ↔ ∀ field ∈ fields, field.2.Keyed := by
  induction fields with
  | nil => simp [KeyedFields]
  | cons field rest ih => simp [KeyedFields, ih]

/-- Items have no key twice within them if none of them has. -/
theorem keyedItems_iff {items : List Json} : KeyedItems items ↔ ∀ item ∈ items, item.Keyed := by
  induction items with
  | nil => simp [KeyedItems]
  | cons item rest ih => simp [KeyedItems, ih]

/-- An object of texts or numbers has every key once if its entries do. -/
theorem keyed_obj_map {ν : Type} {entries : List (String × ν)} {toJson : ν → Json}
    (hkeys : (entries.map Prod.fst).Nodup) (hvalues : ∀ entry ∈ entries, (toJson entry.2).Keyed) :
    (obj (entries.map fun entry => (entry.1, toJson entry.2))).Keyed := by
  have hsame : keys (entries.map fun entry => (entry.1, toJson entry.2)) =
      entries.map Prod.fst := by
    simp [keys, Function.comp_def]
  rw [Keyed, hsame, keyedFields_iff, List.forall_mem_map]
  exact ⟨hkeys, hvalues⟩

/-- A field of an object without repeated keys has none either. -/
theorem keyed_of_field? {fields : List (String × Json)} {key : String} {value : Json}
    (hfields : KeyedFields fields) (hvalue : field? key fields = some value) :
    value.Keyed := by
  rw [field?_eq_get?] at hvalue
  exact keyedFields_iff.mp hfields _ (Entries.mem_of_get? hvalue)

/-! ## Values -/

/-- A character with which a value can start. -/
def StartsValue (c : Char) : Prop :=
  c ∈ ['"', '[', '\x7b', '-', 'n', 't', 'f', 'N', 'I'] ∨ c.isDigit = true

theorem StartsValue.ne {c d : Char} (hc : StartsValue c) (hd : ¬ StartsValue d) : c ≠ d := by
  rintro rfl
  exact hd hc

instance (c : Char) : Decidable (StartsValue c) :=
  inferInstanceAs (Decidable (_ ∨ _))

theorem StartsValue.isSpace {c : Char} (hc : StartsValue c) : isSpace c = false := by
  have h1 := hc.ne (d := ' ') (by decide)
  have h2 := hc.ne (d := '\t') (by decide)
  have h3 := hc.ne (d := '\n') (by decide)
  have h4 := hc.ne (d := '\r') (by decide)
  simp [Json.isSpace, h1, h2, h3, h4]

theorem skipSpace_cons {c : Char} (hc : isSpace c = false) (rest : Text) :
    skipSpace (c :: rest) = c :: rest := by
  simp [skipSpace, hc]

theorem Ends.skipSpace {rest : Text} (hrest : Ends rest) : skipSpace rest = rest := by
  cases rest with
  | nil => rfl
  | cons c rest =>
      refine skipSpace_cons ?_ rest
      rcases hrest c rfl with rfl | rfl | rfl <;> decide

/-- A value that opens with no quote, bracket or brace is a word or a number. -/
theorem valueAt_of_scalar (fuel : Nat) {c : Char} {rest : Text} (hquote : c ≠ '"')
    (hbracket : c ≠ '[') (hbrace : c ≠ '\x7b') :
    valueAt (fuel + 1) (c :: rest) = scalar (c :: rest) := by
  unfold valueAt
  split
  · next heq => exact absurd (List.head_eq_of_cons_eq heq) hquote
  · next heq => exact absurd (List.head_eq_of_cons_eq heq) hbracket
  · next heq => exact absurd (List.head_eq_of_cons_eq heq) hbrace
  · rfl

/-- A numeral is read as its value. -/
theorem valueAt_of_isNumeral {fuel : Nat} {text rest : Text} {value : Json}
    (h : IsNumeral text value rest) : valueAt (fuel + 1) text = .ok (value, rest) := by
  rw [← scalar_of_isNumeral h]
  obtain ⟨c, more, rfl, hc⟩ := h.head
  refine valueAt_of_scalar fuel ?_ ?_ ?_
  all_goals
    rintro rfl
    exact absurd hc (by decide)

/-- Words are read as the values that they stand for. -/
theorem valueAt_word (fuel : Nat) {word : Text} {value : Json} (hword : (word, value) ∈ words)
    (rest : Text) : valueAt (fuel + 1) (word ++ rest) = .ok (value, rest) := by
  simp only [words, List.mem_cons, List.not_mem_nil, or_false, Prod.mk.injEq] at hword
  rcases hword with h | h | h | h | h | h <;> obtain ⟨rfl, rfl⟩ := h
  all_goals
    simp only [List.cons_append, List.nil_append]
    rw [valueAt_of_scalar fuel (by decide) (by decide) (by decide)]
    simp [scalar, words, List.find?, List.isPrefixOf]

/-- Numbers other than integers are read back. -/
theorem valueAt_float (fuel : Nat) (x : Binary64) {rest : Text} (hrest : Ends rest) :
    valueAt (fuel + 1) (NumberStyle.json.text x ++ rest) = .ok (.float x, rest) := by
  cases x with
  | nan =>
      have htext : NumberStyle.json.text .nan = ['N', 'a', 'N'] := rfl
      rw [htext]
      exact valueAt_word fuel (by simp [words]) rest
  | infinite negative =>
      cases negative with
      | true =>
          have htext : NumberStyle.json.text (.infinite true) =
              ['-', 'I', 'n', 'f', 'i', 'n', 'i', 't', 'y'] := rfl
          rw [htext]
          exact valueAt_word fuel (by simp [words]) rest
      | false =>
          have htext : NumberStyle.json.text (.infinite false) =
              ['I', 'n', 'f', 'i', 'n', 'i', 't', 'y'] := rfl
          rw [htext]
          exact valueAt_word fuel (by simp [words]) rest
  | finite negative m q h => exact valueAt_of_isNumeral (isNumeral_finite _ negative h hrest)

/-- Every value is written as something that can start one. -/
theorem render_head (j : Json) : ∃ c more, render j = c :: more ∧ StartsValue c := by
  have hnumeral {text : Text} {value : Json} (h : IsNumeral (text ++ []) value []) :
      ∃ c more, text = c :: more ∧ StartsValue c := by
    obtain ⟨c, more, htext, hc⟩ := h.head
    refine ⟨c, more, by simpa using htext, ?_⟩
    rcases hc with rfl | hdigit
    · decide
    · exact Or.inr hdigit
  match j with
  | null => exact ⟨_, _, rfl, by decide⟩
  | bool true => exact ⟨_, _, rfl, by decide⟩
  | bool false => exact ⟨_, _, rfl, by decide⟩
  | int n => exact hnumeral (isNumeral_intText n ends_nil)
  | float .nan => exact ⟨_, _, rfl, by decide⟩
  | float (.infinite true) => exact ⟨_, _, rfl, by decide⟩
  | float (.infinite false) => exact ⟨_, _, rfl, by decide⟩
  | float (.finite negative m q h) => exact hnumeral (isNumeral_finite _ negative h ends_nil)
  | str s => exact ⟨_, _, rfl, by decide⟩
  | arr items => exact ⟨_, _, rfl, by decide⟩
  | obj fields => exact ⟨_, _, rfl, by decide⟩

/-- Nothing is skipped in front of a value. -/
theorem skipSpace_render (j : Json) (rest : Text) :
    skipSpace (render j ++ rest) = render j ++ rest := by
  obtain ⟨c, more, hrender, hc⟩ := render_head j
  rw [hrender, List.cons_append, skipSpace_cons hc.isSpace]

theorem renderItems_cons_cons (item next : Json) (more : List Json) :
    renderItems (item :: next :: more) =
      render item ++ ',' :: ' ' :: renderItems (next :: more) := by
  simp [renderItems, renderMoreItems]

theorem renderFields_cons_cons (key : String) (value : Json) (next : String × Json)
    (more : List (String × Json)) :
    renderFields ((key, value) :: next :: more) =
      quoted key.toList ++ ':' :: ' ' ::
        (render value ++ ',' :: ' ' :: renderFields (next :: more)) := by
  simp [renderFields, renderMoreFields]

/-! ### Steps of the readers -/

@[simp] theorem skipSpace_space (s : Text) : skipSpace (' ' :: s) = skipSpace s := by
  simp [skipSpace, isSpace]

/-- A quoted text is read as a value. -/
theorem valueAt_string {fuel : Nat} {s rest : Text} {t : String}
    (hstring : string fuel ('"' :: s) = .ok (t, rest)) :
    valueAt (fuel + 1) ('"' :: s) = .ok (.str t, rest) := by
  simp [valueAt, hstring, Except.map]

/-- Items in brackets are read as an array. -/
theorem valueAt_items {fuel : Nat} {c : Char} {s rest : Text} {items : List Json}
    (hc : StartsValue c) (hitems : itemsAt fuel (c :: s) = .ok (items, rest)) :
    valueAt (fuel + 1) ('[' :: c :: s) = .ok (.arr items, rest) := by
  have hclose : c ≠ ']' := hc.ne (by decide)
  simp [valueAt, skipSpace_cons hc.isSpace, hclose, hitems, Except.map]

/-- Fields in braces are read as an object. -/
theorem valueAt_fields {fuel : Nat} {s rest : Text} {fields : List (String × Json)}
    (hfields : fieldsAt fuel [] ('"' :: s) = .ok (fields, rest)) :
    valueAt (fuel + 1) ('\x7b' :: '"' :: s) = .ok (.obj fields, rest) := by
  simp [valueAt, skipSpace_cons (show isSpace '"' = false by decide), hfields, Except.map]

/-- The last item is read up to the closing bracket. -/
theorem itemsAt_last {fuel : Nat} {s rest : Text} {item : Json}
    (hitem : valueAt fuel s = .ok (item, ']' :: rest)) :
    itemsAt (fuel + 1) s = .ok ([item], rest) := by
  simp [itemsAt, hitem, skipSpace_cons (show isSpace ']' = false by decide)]

/-- An item is read up to the comma, and then the others. -/
theorem itemsAt_next {fuel : Nat} {s rest left : Text} {item : Json} {items : List Json}
    (hitem : valueAt fuel s = .ok (item, ',' :: ' ' :: rest)) (hrest : skipSpace rest = rest)
    (hitems : itemsAt fuel rest = .ok (items, left)) :
    itemsAt (fuel + 1) s = .ok (item :: items, left) := by
  simp [itemsAt, hitem, skipSpace_cons (show isSpace ',' = false by decide), hrest, hitems,
    Except.map]

section Fields

variable {fuel : Nat} (before : List (String × Json)) (key : String) {value : Json} {s rest : Text}

/-- The last field is read up to the closing brace. -/
theorem fieldsAt_last (hkey : (quoted key.toList).length ≤ fuel) (hs : skipSpace s = s)
    (hvalue : valueAt fuel s = .ok (value, '\x7d' :: rest)) :
    fieldsAt (fuel + 1) before (quoted key.toList ++ ':' :: ' ' :: s) =
      .ok (setField key value before, rest) := by
  have hstring := string_quoted key (':' :: ' ' :: s) hkey
  simp only [quoted, List.cons_append, List.nil_append, List.append_assoc] at hstring ⊢
  simp [fieldsAt, hstring, skipSpace_cons (show isSpace ':' = false by decide), hs, hvalue,
    skipSpace_cons (show isSpace '\x7d' = false by decide)]

/-- A field is read up to the comma, and then the others. -/
theorem fieldsAt_next (hkey : (quoted key.toList).length ≤ fuel) (hs : skipSpace s = s)
    (hvalue : valueAt fuel s = .ok (value, ',' :: ' ' :: rest)) (hrest : skipSpace rest = rest) :
    fieldsAt (fuel + 1) before (quoted key.toList ++ ':' :: ' ' :: s) =
      fieldsAt fuel (setField key value before) rest := by
  have hstring := string_quoted key (':' :: ' ' :: s) hkey
  simp only [quoted, List.cons_append, List.nil_append, List.append_assoc] at hstring ⊢
  simp [fieldsAt, hstring, skipSpace_cons (show isSpace ':' = false by decide), hs, hvalue,
    skipSpace_cons (show isSpace ',' = false by decide), hrest]

end Fields

/-! ### Whole values -/

/-- Items start as a value does. -/
theorem renderItems_head (item : Json) (items : List Json) :
    ∃ c more, renderItems (item :: items) = c :: more ∧ StartsValue c := by
  obtain ⟨c, more, hrender, hc⟩ := render_head item
  exact ⟨c, more ++ renderMoreItems items, by rw [renderItems, hrender, List.cons_append], hc⟩

theorem renderFields_head (field : String × Json) (fields : List (String × Json)) :
    ∃ more, renderFields (field :: fields) = '"' :: more := by
  obtain ⟨key, value⟩ := field
  refine ⟨key.toList.flatMap charText ++ '"' :: ':' :: ' ' ::
    (render value ++ renderMoreFields fields), ?_⟩
  simp [renderFields, quoted]

mutual

/-- A value is read back in front of any text that may follow a value. -/
theorem valueAt_render : ∀ (j : Json) (fuel : Nat) (rest : Text), (render j).length < fuel →
    j.Keyed → Ends rest → valueAt fuel (render j ++ rest) = .ok (j, rest)
  | _, 0, _, hfuel, _, _ => absurd hfuel (Nat.not_lt_zero _)
  -- The words, the numbers and the texts are read in one step.
  | null, fuel + 1, rest, _, _, _ => by
      rw [render]
      exact valueAt_word fuel (by simp [words]) rest
  | bool true, fuel + 1, rest, _, _, _ => by
      rw [render]
      exact valueAt_word fuel (by simp [words]) rest
  | bool false, fuel + 1, rest, _, _, _ => by
      rw [render]
      exact valueAt_word fuel (by simp [words]) rest
  | int n, fuel + 1, _, _, _, hrest => by
      rw [render]
      exact valueAt_of_isNumeral (isNumeral_intText n hrest)
  | float x, fuel + 1, _, _, _, hrest => by
      rw [render]
      exact valueAt_float fuel x hrest
  | str s, fuel + 1, rest, hfuel, _, _ => by
      rw [render] at hfuel ⊢
      exact valueAt_string (string_quoted s rest (by omega))
  | arr [], fuel + 1, rest, _, _, _ => by
      simp [render, renderItems, valueAt, skipSpace, isSpace]
  -- Every bracket costs a unit of fuel, and the rest suffices for what stands inside.
  | arr (item :: items), fuel + 1, rest, hfuel, hj, _ => by
      rw [render, List.length_cons] at hfuel
      rw [Keyed] at hj
      have hitems := itemsAt_render (item :: items) fuel rest (by simp) (by omega) hj
      obtain ⟨c, more, htext, hc⟩ := renderItems_head item items
      rw [htext] at hitems
      rw [render, htext]
      exact valueAt_items hc hitems
  | obj [], fuel + 1, rest, _, _, _ => by
      simp [render, renderFields, valueAt, skipSpace, isSpace]
  | obj (field :: fields), fuel + 1, rest, hfuel, hj, _ => by
      rw [render, List.length_cons] at hfuel
      rw [Keyed] at hj
      have hfields := fieldsAt_render (field :: fields) fuel [] rest (by simp) (by omega)
        (by simpa using hj.1) hj.2
      obtain ⟨more, htext⟩ := renderFields_head field fields
      rw [htext] at hfields
      rw [render, htext]
      exact valueAt_fields hfields

/-- The items of an array are read back up to its closing bracket. -/
theorem itemsAt_render : ∀ (items : List Json) (fuel : Nat) (rest : Text), items ≠ [] →
    (renderItems items).length < fuel → KeyedItems items →
    itemsAt fuel (renderItems items ++ rest) = .ok (items, rest)
  | [], _, _, hne, _, _ => absurd rfl hne
  | _ :: _, 0, _, _, hfuel, _ => absurd hfuel (Nat.not_lt_zero _)
  | [item], fuel + 1, rest, _, hfuel, hitems => by
      rw [KeyedItems] at hitems
      have htext : renderItems [item] = render item ++ [']'] := by
        simp [renderItems, renderMoreItems]
      rw [htext, List.length_append, List.length_singleton] at hfuel
      rw [htext, List.append_assoc]
      refine itemsAt_last (valueAt_render item fuel (']' :: rest) (by omega) hitems.1 ?_)
      exact ends_cons (by simp) rest
  | item :: next :: more, fuel + 1, rest, _, hfuel, hitems => by
      rw [KeyedItems] at hitems
      rw [renderItems_cons_cons] at hfuel ⊢
      simp only [List.length_append, List.length_cons] at hfuel
      have hitem := valueAt_render item fuel (',' :: ' ' :: (renderItems (next :: more) ++ rest))
        (by omega) hitems.1 (ends_cons (by simp) _)
      have hmore := itemsAt_render (next :: more) fuel rest (by simp) (by omega) hitems.2
      rw [List.append_assoc]
      refine itemsAt_next hitem ?_ hmore
      obtain ⟨c, text, htext, hc⟩ := renderItems_head next more
      rw [htext, List.cons_append, skipSpace_cons hc.isSpace]

/-- The fields of an object are read back up to its closing brace, behind those read before. -/
theorem fieldsAt_render : ∀ (fields : List (String × Json)) (fuel : Nat)
    (before : List (String × Json)) (rest : Text), fields ≠ [] →
    (renderFields fields).length < fuel → (keys (before ++ fields)).Nodup → KeyedFields fields →
    fieldsAt fuel before (renderFields fields ++ rest) = .ok (before ++ fields, rest)
  | [], _, _, _, hne, _, _, _ => absurd rfl hne
  | _ :: _, 0, _, _, _, hfuel, _, _ => absurd hfuel (Nat.not_lt_zero _)
  | [(key, value)], fuel + 1, before, rest, _, hfuel, hkeys, hfields => by
      rw [KeyedFields] at hfields
      have htext : renderFields [(key, value)] =
          quoted key.toList ++ ':' :: ' ' :: (render value ++ ['\x7d']) := by
        simp [renderFields, renderMoreFields]
      have hnew := Entries.not_mem_of_nodup hkeys
      rw [htext] at hfuel ⊢
      simp only [List.length_append, List.length_cons] at hfuel
      have hvalue := valueAt_render value fuel ('\x7d' :: rest) (by omega) hfields.1
        (ends_cons (by simp) rest)
      -- The key is new, so setting it adds the field behind the others.
      rw [← Entries.set_of_not_mem value hnew, ← setField_eq_set, List.append_assoc]
      simp only [List.cons_append, List.append_assoc, List.nil_append]
      exact fieldsAt_last before key (by omega) (skipSpace_render value _) hvalue
  | (key, value) :: next :: more, fuel + 1, before, rest, _, hfuel, hkeys, hfields => by
      rw [KeyedFields] at hfields
      have hnew := Entries.not_mem_of_nodup hkeys
      rw [renderFields_cons_cons] at hfuel ⊢
      simp only [List.length_append, List.length_cons] at hfuel
      have hvalue := valueAt_render value fuel
        (',' :: ' ' :: (renderFields (next :: more) ++ rest)) (by omega) hfields.1
        (ends_cons (by simp) _)
      have hmore := fieldsAt_render (next :: more) fuel (before ++ [(key, value)]) rest (by simp)
        (by omega) (by simpa using hkeys) hfields.2
      have hspace : skipSpace (renderFields (next :: more) ++ rest) =
          renderFields (next :: more) ++ rest := by
        obtain ⟨text, htext⟩ := renderFields_head next more
        rw [htext, List.cons_append, skipSpace_cons (by decide)]
      simp only [List.cons_append, List.append_assoc]
      rw [fieldsAt_next before key (by omega) (skipSpace_render value _) hvalue hspace,
        setField_eq_set, Entries.set_of_not_mem value hnew, hmore]
      simp

end

/-- The written form of a value is read as that value. -/
theorem parse_render {j : Json} (hj : j.Keyed) : parse (render j) = .ok j := by
  have hvalue := valueAt_render j (2 * (render j).length + 2) [] (by omega) hj ends_nil
  have hspace := skipSpace_render j []
  rw [List.append_nil] at hvalue hspace
  have hmark : (render j).head? ≠ some (Char.ofNat 0xFEFF) := by
    obtain ⟨c, more, hrender, hc⟩ := render_head j
    rw [hrender, List.head?_cons]
    exact fun hsome => hc.ne (by decide) (Option.some.inj hsome)
  rw [parse, if_neg hmark, hspace, hvalue]
  rfl

/-! ## What is read has no key twice -/

/-- Setting a field repeats no key within the fields. -/
theorem keyedFields_setField {fields : List (String × Json)} (hfields : KeyedFields fields)
    (key : String) {value : Json} (hvalue : value.Keyed) :
    KeyedFields (setField key value fields) := by
  induction fields with
  | nil => exact ⟨hvalue, trivial⟩
  | cons field rest ih =>
      obtain ⟨k, v⟩ := field
      rw [KeyedFields] at hfields
      rw [setField]
      split
      · exact ⟨hvalue, hfields.2⟩
      · exact ⟨hfields.1, ih hfields.2⟩

theorem keyed_empty : (obj []).Keyed :=
  ⟨List.nodup_nil, trivial⟩

/-- Setting a field of an object leaves it without a key that it has twice. -/
theorem keyed_setField {fields : List (String × Json)} (hfields : (obj fields).Keyed)
    (key : String) {value : Json} (hvalue : value.Keyed) :
    (obj (setField key value fields)).Keyed := by
  rw [Keyed] at hfields ⊢
  refine ⟨?_, keyedFields_setField hfields.2 key hvalue⟩
  rw [keys, setField_eq_set]
  exact Entries.nodup_set hfields.1 key value

/-- A value without fields of its own has no key twice. -/
theorem keyed_of_scalar {s rest : Text} {j : Json} (hscalar : scalar s = .ok (j, rest)) :
    j.Keyed := by
  unfold scalar at hscalar
  split at hscalar
  · next word value hfound =>
    have hword := List.mem_of_find?_eq_some hfound
    simp only [words, List.mem_cons, List.not_mem_nil, or_false, Prod.mk.injEq] at hword
    cases hscalar
    rcases hword with h | h | h | h | h | h <;> rw [h.2] <;> trivial
  · next hwords =>
    cases hnumeral : numeral? s with
    | none => simp [hnumeral] at hscalar
    | some found =>
        simp only [hnumeral, Except.ok.injEq] at hscalar
        subst hscalar
        obtain ⟨⟨whole, left⟩, -, hfound⟩ := Option.map_eq_some_iff.mp hnumeral
        dsimp only at hfound
        split at hfound <;> cases hfound <;> trivial

/-- The readers at one amount of fuel give nothing with a key twice. -/
structure GiveKeyed (fuel : Nat) : Prop where
  value : ∀ {s rest : Text} {j : Json}, valueAt fuel s = .ok (j, rest) → j.Keyed
  items : ∀ {s rest : Text} {items : List Json}, itemsAt fuel s = .ok (items, rest) →
    KeyedItems items
  fields : ∀ {before fields : List (String × Json)} {s rest : Text},
    (obj before).Keyed → fieldsAt fuel before s = .ok (fields, rest) → (obj fields).Keyed

theorem exists_of_map_eq_ok {α β : Type} {f : α → β} {x : Except Refusal α} {b : β}
    (h : x.map f = .ok b) : ∃ a, x = .ok a ∧ f a = b := by
  cases x with
  | error e => cases h
  | ok a => exact ⟨a, rfl, by simpa [Except.map] using h⟩

/-- What is read as a value has no key twice. -/
theorem keyed_valueAt_succ {fuel : Nat} (ih : GiveKeyed fuel) {s rest : Text} {j : Json}
    (hread : valueAt (fuel + 1) s = .ok (j, rest)) : j.Keyed := by
  unfold valueAt at hread
  split at hread
  · obtain ⟨found, -, hfound⟩ := exists_of_map_eq_ok hread
    cases hfound
    trivial
  · split at hread
    · cases hread
      trivial
    · obtain ⟨⟨items, left⟩, hitems, hfound⟩ := exists_of_map_eq_ok hread
      cases hfound
      exact ih.items hitems
  · split at hread
    · cases hread
      exact keyed_empty
    · obtain ⟨⟨fields, left⟩, hfields, hfound⟩ := exists_of_map_eq_ok hread
      cases hfound
      exact ih.fields keyed_empty hfields
  · exact keyed_of_scalar hread

/-- What is read as items has no key twice. -/
theorem keyed_itemsAt_succ {fuel : Nat} (ih : GiveKeyed fuel) {s rest : Text} {items : List Json}
    (hread : itemsAt (fuel + 1) s = .ok (items, rest)) : KeyedItems items := by
  unfold itemsAt at hread
  split at hread
  · cases hread
  · next item left hitem =>
    split at hread
    · cases hread
      exact ⟨ih.value hitem, trivial⟩
    · obtain ⟨⟨more, left⟩, hmore, hfound⟩ := exists_of_map_eq_ok hread
      cases hfound
      exact ⟨ih.value hitem, ih.items hmore⟩
    · cases hread

/-- What is read as fields has no key twice, since a repeated key is set again. -/
theorem keyed_fieldsAt_succ {fuel : Nat} (ih : GiveKeyed fuel)
    {before fields : List (String × Json)} {s rest : Text} (hbefore : (obj before).Keyed)
    (hread : fieldsAt (fuel + 1) before s = .ok (fields, rest)) : (obj fields).Keyed := by
  unfold fieldsAt at hread
  split at hread
  · split at hread
    · cases hread
    · next key left hkey =>
      split at hread
      · split at hread
        · cases hread
        · next value left hvalue =>
          have hset := keyed_setField hbefore key (ih.value hvalue)
          dsimp only at hread
          split at hread
          · cases hread
            exact hset
          · exact ih.fields hset hread
          · cases hread
      · cases hread
  · cases hread

/-- Nothing that is read has a key twice. -/
theorem giveKeyed (fuel : Nat) : GiveKeyed fuel := by
  induction fuel with
  | zero =>
      exact ⟨fun h => by simp [valueAt] at h, fun h => by simp [itemsAt] at h,
        fun _ h => by simp [fieldsAt] at h⟩
  | succ fuel ih => exact ⟨keyed_valueAt_succ ih, keyed_itemsAt_succ ih, keyed_fieldsAt_succ ih⟩

/-- What is read has no key twice. -/
theorem keyed_of_parse {s : Text} {j : Json} (hparse : parse s = .ok j) : j.Keyed := by
  unfold parse at hparse
  split at hparse
  · cases hparse
  · split at hparse
    · cases hparse
    · next value rest hvalue =>
      split at hparse
      · cases hparse
        exact (giveKeyed _).value hvalue
      · cases hparse

end Json
end QueryAlgebra
