import QueryAlgebra.Proofs.InsertionOrder

/-!
# What a fingerprint does not see

A fingerprint looks at a value only down to a limit of the depth, and of a list with many
items only at both ends.  So it cannot tell values apart that differ only below the limit
or between the ends.  The relation `Indistinct` describes such values without regard to
streams, level by level: it asks for the same lengths, for the same keys in the same
order, and for the same plain values, and it lets go of everything that is not looked at.

The items of a list are written from a position on with the length of the whole list at
hand.  Theorem `itemStream_eq` replaces these positions by the two ends of the list, so
that the relation and the stream speak about the same items.

Main results:

- Theorem `itemStream_eq`: what is written of a list comes from the items that count.
- Theorem `stream_eq_of_indistinct`: indistinct values have the same stream.
- Theorem `fingerprintAt_eq_of_indistinct`: indistinct values have the same fingerprint.
-/

namespace QueryAlgebra
namespace Fingerprint

/-! ## The items that count -/

/-- The items of a list that count: all of a short list, and both ends of a long one. -/
def counted (items : List Value) : List Value :=
  if items.length ≤ maxItems then items
  else items.take keptItems ++ items.drop (items.length - keptItems)

theorem counted_of_short {items : List Value} (hshort : items.length ≤ maxItems) :
    counted items = items :=
  if_pos hshort

theorem counted_of_long {items : List Value} (hlong : ¬ items.length ≤ maxItems) :
    counted items = items.take keptItems ++ items.drop (items.length - keptItems) :=
  if_neg hlong

theorem length_counted_eq {xs ys : List Value} (hlength : xs.length = ys.length) :
    (counted xs).length = (counted ys).length := by
  unfold counted
  rw [hlength]
  split
  · exact hlength
  · simp [hlength]

/-- The streams of the items that count, with a mark between the ends of a long list. -/
def gathered (depth : Int) (count : Nat) (streams : List Bytes) : Bytes :=
  if count ≤ maxItems then streams.flatten
  else (streams.take keptItems).flatten ++ (gapMark depth ++ (streams.drop keptItems).flatten)

/-- Items that all count are all written. -/
theorem itemStream_of_counted {copied : Bool} {depth : Int} {count index : Nat}
    {items : List Value} (hcounted : ∀ i < items.length, isCounted count (index + i) = true) :
    itemStream copied depth count index items = (items.map (streamIn copied depth)).flatten := by
  induction items generalizing index with
  | nil => rfl
  | cons v items ih =>
      have hfirst : isCounted count index = true := hcounted 0 (by simp)
      have hrest : ∀ i < items.length, isCounted count (index + 1 + i) = true := by
        intro i hi
        rw [Nat.add_right_comm, Nat.add_assoc]
        exact hcounted (i + 1) (by simpa using hi)
      rw [itemStream_cons, itemBytes, if_pos hfirst, ih hrest, List.map_cons, List.flatten_cons]

/-- Behind the mark nothing is written of the items that do not count. -/
theorem itemStream_of_uncounted {copied : Bool} {depth : Int} {count index : Nat}
    {items : List Value} (hindex : keptItems < index)
    (huncounted : ∀ i < items.length, isCounted count (index + i) = false) :
    itemStream copied depth count index items = [] := by
  induction items generalizing index with
  | nil => rfl
  | cons v items ih =>
      have hfirst : isCounted count index = false := huncounted 0 (by simp)
      have hrest : ∀ i < items.length, isCounted count (index + 1 + i) = false := by
        intro i hi
        rw [Nat.add_right_comm, Nat.add_assoc]
        exact huncounted (i + 1) (by simpa using hi)
      rw [itemStream_cons, itemBytes, hfirst, if_neg Bool.false_ne_true, if_neg (by omega),
        ih (by omega) hrest, List.append_nil]

/-- Items that all count are all looked at for views. -/
theorem itemsBlocked_of_counted {depth : Int} {count index : Nat} {items : List Value}
    (hcounted : ∀ i < items.length, isCounted count (index + i) = true) :
    itemsBlocked depth count index items = items.any (isBlocked depth) := by
  induction items generalizing index with
  | nil => rfl
  | cons v items ih =>
      have hfirst : isCounted count index = true := hcounted 0 (by simp)
      have hrest : ∀ i < items.length, isCounted count (index + 1 + i) = true := by
        intro i hi
        rw [Nat.add_right_comm, Nat.add_assoc]
        exact hcounted (i + 1) (by simpa using hi)
      rw [itemsBlocked, hfirst, Bool.true_and, ih hrest, List.any_cons]

/-- Items that do not count are not looked at. -/
theorem itemsBlocked_of_uncounted {depth : Int} {count index : Nat} {items : List Value}
    (huncounted : ∀ i < items.length, isCounted count (index + i) = false) :
    itemsBlocked depth count index items = false := by
  induction items generalizing index with
  | nil => rfl
  | cons v items ih =>
      have hfirst : isCounted count index = false := huncounted 0 (by simp)
      have hrest : ∀ i < items.length, isCounted count (index + 1 + i) = false := by
        intro i hi
        rw [Nat.add_right_comm, Nat.add_assoc]
        exact huncounted (i + 1) (by simpa using hi)
      rw [itemsBlocked, hfirst, Bool.false_and, Bool.false_or, ih hrest]

/-- The items at both ends of a long list count, and those between them do not. -/
theorem isCounted_ends (more : Nat) :
    (∀ i < keptItems, isCounted (2 * keptItems + more + 1) i = true) ∧
      (∀ i, keptItems ≤ i → i ≤ keptItems + more →
        isCounted (2 * keptItems + more + 1) i = false) ∧
      ∀ i, keptItems + more < i → isCounted (2 * keptItems + more + 1) i = true := by
  refine ⟨?_, ?_, ?_⟩
  · intro i hi
    exact decide_eq_true (.inr (.inl hi))
  · intro i hlow hhigh
    apply decide_eq_false
    simp only [maxItems, keptItems] at hlow hhigh ⊢
    omega
  · intro i hi
    apply decide_eq_true
    simp only [maxItems, keptItems] at hi ⊢
    omega

section Ends

variable (depth : Int) {first last : List Value} (v : Value) (rest : List Value)
  (hfirst : first.length = keptItems) (hlast : last.length = keptItems)
include hfirst hlast

/-- The length of a list with two ends that count and something between them. -/
theorem length_ends :
    (first ++ (v :: rest ++ last)).length = 2 * keptItems + rest.length + 1 := by
  simp only [List.length_append, List.length_cons, hfirst, hlast]
  omega

/-- Of a list with two ends that count, the ends are written, with a mark between them. -/
theorem itemStream_of_ends (copied : Bool) :
    itemStream copied depth (first ++ (v :: rest ++ last)).length 0 (first ++ (v :: rest ++ last)) =
      (first.map (streamIn copied depth)).flatten ++
        (gapMark depth ++ (last.map (streamIn copied depth)).flatten) := by
  rcases isCounted_ends rest.length with ⟨hstarts, hbetween, hends⟩
  have hstart : itemStream copied depth (2 * keptItems + rest.length + 1) 0 first =
      (first.map (streamIn copied depth)).flatten := by
    apply itemStream_of_counted
    intro i hi
    rw [Nat.zero_add]
    exact hstarts i (hfirst ▸ hi)
  have hgap : itemBytes copied depth (2 * keptItems + rest.length + 1) keptItems v =
      gapMark depth := by
    rw [itemBytes, hbetween _ (by omega) (by omega), if_neg Bool.false_ne_true, if_pos rfl]
  have hmiddle : itemStream copied depth (2 * keptItems + rest.length + 1) (keptItems + 1) rest =
      [] := by
    apply itemStream_of_uncounted (by omega)
    intro i hi
    exact hbetween _ (by omega) (by omega)
  have hend : itemStream copied depth (2 * keptItems + rest.length + 1)
      (keptItems + 1 + rest.length) last = (last.map (streamIn copied depth)).flatten := by
    apply itemStream_of_counted
    intro i _
    exact hends _ (by omega)
  rw [length_ends v rest hfirst hlast, itemStream_append, hstart, Nat.zero_add, hfirst,
    List.cons_append, itemStream_cons, hgap, itemStream_append, hmiddle, List.nil_append, hend]

/-- Of a list with two ends that count, the ends are looked at for views. -/
theorem itemsBlocked_of_ends :
    itemsBlocked depth (first ++ (v :: rest ++ last)).length 0 (first ++ (v :: rest ++ last)) =
      (first ++ last).any (isBlocked depth) := by
  rcases isCounted_ends rest.length with ⟨hstarts, hbetween, hends⟩
  have hstart : itemsBlocked depth (2 * keptItems + rest.length + 1) 0 first =
      first.any (isBlocked depth) := by
    apply itemsBlocked_of_counted
    intro i hi
    rw [Nat.zero_add]
    exact hstarts i (hfirst ▸ hi)
  have hmiddle : itemsBlocked depth (2 * keptItems + rest.length + 1) keptItems (v :: rest) =
      false := by
    apply itemsBlocked_of_uncounted
    intro i hi
    rw [List.length_cons] at hi
    exact hbetween _ (by omega) (by omega)
  have hend : itemsBlocked depth (2 * keptItems + rest.length + 1)
      (keptItems + (v :: rest).length) last = last.any (isBlocked depth) := by
    apply itemsBlocked_of_counted
    intro i _
    rw [List.length_cons]
    exact hends _ (by omega)
  rw [length_ends v rest hfirst hlast, itemsBlocked_append, hstart, Nat.zero_add, hfirst,
    itemsBlocked_append, hmiddle, Bool.false_or, hend, List.any_append]

end Ends

/-- A long list has two ends and something between them. -/
theorem exists_ends {items : List Value} (hlong : ¬ items.length ≤ maxItems) :
    ∃ v rest, items = items.take keptItems ++
      (v :: rest ++ items.drop (items.length - keptItems)) := by
  have hmiddle : (items.drop keptItems).take (items.length - 2 * keptItems) ≠ [] := by
    intro hnil
    have hzero := congrArg List.length hnil
    simp only [List.length_take, List.length_drop, List.length_nil, maxItems, keptItems]
      at hzero hlong
    omega
  rcases List.exists_cons_of_ne_nil hmiddle with ⟨v, rest, hcons⟩
  refine ⟨v, rest, ?_⟩
  have hplace : keptItems + (items.length - 2 * keptItems) = items.length - keptItems := by
    simp only [maxItems, keptItems] at hlong ⊢
    omega
  rw [← hcons, ← hplace, ← List.drop_drop, List.take_append_drop, List.take_append_drop]

/-- The ends of a long list have the length that counts. -/
theorem length_take_and_drop {items : List Value} (hlong : ¬ items.length ≤ maxItems) :
    (items.take keptItems).length = keptItems ∧
      (items.drop (items.length - keptItems)).length = keptItems := by
  simp only [List.length_take, List.length_drop, maxItems, keptItems] at hlong ⊢
  omega

/-- What is written of a list comes from the items that count. -/
theorem itemStream_eq (copied : Bool) (depth : Int) (items : List Value) :
    itemStream copied depth items.length 0 items =
      gathered depth items.length ((counted items).map (streamIn copied depth)) := by
  by_cases hshort : items.length ≤ maxItems
  · rw [gathered, if_pos hshort, counted_of_short hshort]
    apply itemStream_of_counted
    intro i _
    exact isCounted_of_le hshort _
  · rcases length_take_and_drop hshort with ⟨hfirst, hlast⟩
    rcases exists_ends hshort with ⟨v, rest, hitems⟩
    have hwritten := itemStream_of_ends depth v rest hfirst hlast copied
    rw [← hitems] at hwritten
    have hstart : ((items.take keptItems).map (streamIn copied depth)).length = keptItems := by
      rw [List.length_map, hfirst]
    rw [hwritten, gathered, if_neg hshort, counted_of_long hshort, List.map_append,
      List.take_left' hstart, List.drop_left' hstart]

/-- The items that count are looked at for views, and no others. -/
theorem itemsBlocked_eq (depth : Int) (items : List Value) :
    itemsBlocked depth items.length 0 items = (counted items).any (isBlocked depth) := by
  by_cases hshort : items.length ≤ maxItems
  · rw [counted_of_short hshort]
    apply itemsBlocked_of_counted
    intro i _
    exact isCounted_of_le hshort _
  · rcases length_take_and_drop hshort with ⟨hfirst, hlast⟩
    rcases exists_ends hshort with ⟨v, rest, hitems⟩
    have hlooked := itemsBlocked_of_ends depth v rest hfirst hlast
    rw [← hitems] at hlooked
    rw [hlooked, counted_of_long hshort]

/-! ## Indistinct values -/

/-- The items of a list or a tuple. -/
def itemsOf? : Value → Option (List Value)
  | .list items => some items
  | .tuple items => some items
  | _ => none

/-- The stream of a list or a tuple is made of the streams of the items that count. -/
theorem body_of_items {copied : Bool} {depth : Int} {v : Value} {items : List Value}
    (hitems : itemsOf? v = some items) :
    body copied depth v =
      head 'L' items.length ++ gathered (depth + 1) items.length
        ((counted items).map (streamIn copied (depth + 1))) := by
  rw [← itemStream_eq]
  cases v with
  | list _ =>
      cases hitems
      rw [body]
  | tuple _ =>
      cases hitems
      rw [body]
  | _ => cases hitems

/-- A list or a tuple is blocked by the items that count. -/
theorem isBlocked_of_items {depth : Int} {v : Value} {items : List Value}
    (hitems : itemsOf? v = some items) :
    isBlocked depth v =
      (decide (depth ≤ maxDepth) && (counted items).any (isBlocked (depth + 1))) := by
  rw [← itemsBlocked_eq]
  cases v with
  | list _ =>
      cases hitems
      rw [isBlocked]
  | tuple _ =>
      cases hitems
      rw [isBlocked]
  | _ => cases hitems

/-- Below the limit nothing is looked at. -/
theorem isBlocked_of_lt {depth : Int} (hdeep : maxDepth < depth) (v : Value) :
    isBlocked depth v = false := by
  have hlimit : decide (depth ≤ maxDepth) = false := decide_eq_false (Int.not_le.mpr hdeep)
  cases v <;> simp [isBlocked, hlimit]

/--
Two values that a fingerprint does not tell apart at a depth: any two below the limit,
lists or tuples of the same length with indistinct items where they count, dictionaries
with the same keys in the same order and indistinct values, and otherwise a value and
itself.
-/
inductive Indistinct : Int → Value → Value → Prop where
  | deep {depth : Int} (hdeep : maxDepth < depth) (u v : Value) : Indistinct depth u v
  | same (depth : Int) (v : Value) : Indistinct depth v v
  | items {depth : Int} {u v : Value} {xs ys : List Value} (hu : itemsOf? u = some xs)
      (hv : itemsOf? v = some ys) (hlength : xs.length = ys.length)
      (hitems : ∀ pair ∈ (counted xs).zip (counted ys), Indistinct (depth + 1) pair.1 pair.2) :
      Indistinct depth u v
  | values {depth : Int} {entries others : List (Value × Value)}
      (hkeys : entries.map Prod.fst = others.map Prod.fst)
      (hvalues : ∀ pair ∈ (entries.map Prod.snd).zip (others.map Prod.snd),
        Indistinct (depth + 1) pair.1 pair.2) :
      Indistinct depth (.dict entries) (.dict others)

/-- Two lists whose items agree in pairs under a function agree under it as a whole. -/
theorem map_eq_map_of_zip {α β : Type} {f : α → β} {xs ys : List α}
    (hlength : xs.length = ys.length) (hpairs : ∀ pair ∈ xs.zip ys, f pair.1 = f pair.2) :
    xs.map f = ys.map f := by
  induction xs generalizing ys with
  | nil => rw [List.eq_nil_of_length_eq_zero hlength.symm]
  | cons x xs ih =>
      cases ys with
      | nil => simp at hlength
      | cons y ys =>
          rw [List.zip_cons_cons, List.forall_mem_cons] at hpairs
          rw [List.map_cons, List.map_cons, hpairs.1, ih (by simpa using hlength) hpairs.2]

/-- A list is told by a test on each item only as far as the test tells its items. -/
theorem any_eq_any_of_zip {α : Type} {p : α → Bool} {xs ys : List α}
    (hlength : xs.length = ys.length) (hpairs : ∀ pair ∈ xs.zip ys, p pair.1 = p pair.2) :
    xs.any p = ys.any p := by
  have hmap := map_eq_map_of_zip hlength hpairs
  have hany (found : List α) : found.any p = (found.map p).any id := by
    rw [List.any_map]
    rfl
  rw [hany, hany, hmap]

/-- Dictionaries with the same keys have the same streams of entries if their values do. -/
theorem entryStreams_eq_of_values {copied : Bool} {depth : Int}
    {entries others : List (Value × Value)}
    (hkeys : entries.map Prod.fst = others.map Prod.fst)
    (hvalues : (entries.map Prod.snd).map (streamIn copied depth) =
      (others.map Prod.snd).map (streamIn copied depth)) :
    entryStreams copied depth entries = entryStreams copied depth others := by
  have hzip (found : List (Value × Value)) : entryStreams copied depth found =
      ((found.map Prod.fst).map (streamIn copied depth)).zip
        ((found.map Prod.snd).map (streamIn copied depth)) := by
    rw [entryStreams_eq, List.map_map, List.map_map, List.zip_map']
    rfl
  rw [hzip, hzip, hkeys, hvalues]

/-- The keys and the values of a dictionary are looked at for views. -/
theorem entriesBlocked_eq_or (depth : Int) (entries : List (Value × Value)) :
    entriesBlocked depth entries =
      ((entries.map Prod.fst).any (isBlocked depth) ||
        (entries.map Prod.snd).any (isBlocked depth)) := by
  rw [entriesBlocked_eq, List.any_map, List.any_map, Bool.eq_iff_iff]
  simp only [Bool.or_eq_true, List.any_eq_true, Function.comp_apply]
  constructor
  · rintro ⟨e, he, hkey | hvalue⟩
    · exact .inl ⟨e, he, hkey⟩
    · exact .inr ⟨e, he, hvalue⟩
  · rintro (⟨e, he, hkey⟩ | ⟨e, he, hvalue⟩)
    · exact ⟨e, he, .inl hkey⟩
    · exact ⟨e, he, .inr hvalue⟩

/-- Indistinct values have the same stream. -/
theorem stream_eq_of_indistinct {depth : Int} {u v : Value} (hsame : Indistinct depth u v) :
    stream depth u = stream depth v := by
  induction hsame with
  | deep hdeep u v => rw [stream, stream, streamIn_of_lt hdeep, streamIn_of_lt hdeep]
  | same depth v => rfl
  | items hu hv hlength _ ih =>
      have hstreams := map_eq_map_of_zip (f := streamIn false _) (length_counted_eq hlength) ih
      rw [stream, stream, streamIn, streamIn, body_of_items hu, body_of_items hv, hlength, hstreams]
  | values hkeys _ ih =>
      have hlength := congrArg List.length hkeys
      simp only [List.length_map] at hlength
      exact stream_dict_of_entryStreams (entryStreams_eq_of_values hkeys
        (map_eq_map_of_zip (by simpa using hlength) ih))

/-- Indistinct values are blocked alike. -/
theorem isBlocked_eq_of_indistinct {depth : Int} {u v : Value} (hsame : Indistinct depth u v) :
    isBlocked depth u = isBlocked depth v := by
  induction hsame with
  | deep hdeep u v => rw [isBlocked_of_lt hdeep, isBlocked_of_lt hdeep]
  | same depth v => rfl
  | items hu hv hlength _ ih =>
      rw [isBlocked_of_items hu, isBlocked_of_items hv,
        any_eq_any_of_zip (length_counted_eq hlength) ih]
  | values hkeys _ ih =>
      have hlength := congrArg List.length hkeys
      simp only [List.length_map] at hlength
      rw [isBlocked, isBlocked, entriesBlocked_eq_or, entriesBlocked_eq_or, hkeys,
        any_eq_any_of_zip (by simpa using hlength) ih]

/-- Indistinct values have the same fingerprint, or none for the same reason. -/
theorem fingerprintAt_eq_of_indistinct {depth : Int} {u v : Value}
    (hsame : Indistinct depth u v) : fingerprintAt depth u = fingerprintAt depth v :=
  fingerprintAt_eq_of_stream_eq (isBlocked_eq_of_indistinct hsame) (stream_eq_of_indistinct hsame)

-- The limits that the relation speaks of.
example : maxDepth = 8 ∧ maxItems = 2000 ∧ keptItems = 1000 := by decide

/-! ## Values that differ out of sight -/

/-- Values wrapped in lists down to below the limit are indistinct. -/
theorem indistinct_nested {depth : Int} {n : Nat} (hdeep : maxDepth < depth + n) (u v : Value) :
    Indistinct depth (Value.nested n u) (Value.nested n v) := by
  induction n generalizing depth with
  | zero => exact .deep (by simpa using hdeep) _ _
  | succ n ih =>
      have hinner : Indistinct (depth + 1) (Value.nested n u) (Value.nested n v) := ih (by omega)
      have hitems (w : Value) : itemsOf? (Value.nested (n + 1) w) = some [Value.nested n w] := rfl
      refine .items (hitems u) (hitems v) rfl ?_
      rw [counted_of_short (by simp [maxItems]), counted_of_short (by simp [maxItems])]
      simpa using hinner

/-- A list with a value between two ends of zeros. -/
def betweenZeros (v : Value) : List Value :=
  (List.replicate keptItems (.int 0) ++ [v]) ++ List.replicate keptItems (.int 0)

theorem counted_betweenZeros (v : Value) :
    counted (betweenZeros v) =
      List.replicate keptItems (.int 0) ++ List.replicate keptItems (.int 0) := by
  have hlength : (betweenZeros v).length = keptItems + 1 + keptItems := by
    rw [betweenZeros, List.length_append, List.length_append, List.length_replicate,
      List.length_singleton]
  have hfront : (List.replicate keptItems (Value.int 0) ++ [v]).length = keptItems + 1 := by simp
  have hlong : ¬ (betweenZeros v).length ≤ maxItems := by
    rw [hlength]
    decide
  rw [counted_of_long hlong, hlength, Nat.add_sub_cancel, betweenZeros, List.drop_left' hfront,
    List.append_assoc, List.take_left' List.length_replicate]

theorem indistinct_betweenZeros (depth : Int) (u v : Value) :
    Indistinct depth (.list (betweenZeros u)) (.list (betweenZeros v)) := by
  refine .items rfl rfl (by simp [betweenZeros]) ?_
  rw [counted_betweenZeros, counted_betweenZeros, List.zip, List.zipWith_self]
  intro pair hpair
  rcases List.mem_map.mp hpair with ⟨item, -, rfl⟩
  exact .same _ item

/-- Differences in the middle of a long list and below the limit, in one dictionary. -/
theorem fingerprint_outOfSight :
    Indistinct 0 (.dict [(.int 1, .list (betweenZeros .none)), (.int 2, Value.nested 8 .none)])
        (.dict [(.int 1, .list (betweenZeros (.int 5))), (.int 2, Value.nested 8 (.int 5))]) ∧
      fingerprintAt 0
          (.dict [(.int 1, .list (betweenZeros .none)), (.int 2, Value.nested 8 .none)]) =
        fingerprintAt 0
          (.dict [(.int 1, .list (betweenZeros (.int 5))), (.int 2, Value.nested 8 (.int 5))]) := by
  have hsame : Indistinct 0
      (.dict [(.int 1, .list (betweenZeros .none)), (.int 2, Value.nested 8 .none)])
      (.dict [(.int 1, .list (betweenZeros (.int 5))), (.int 2, Value.nested 8 (.int 5))]) := by
    refine .values (by simp) ?_
    simp only [List.map_cons, List.map_nil, List.zip_cons_cons, List.zip_nil_left,
      List.forall_mem_cons]
    exact ⟨indistinct_betweenZeros 1 _ _, indistinct_nested (by decide) _ _,
      fun _ hnone => absurd hnone List.not_mem_nil⟩
  exact ⟨hsame, fingerprintAt_eq_of_indistinct hsame⟩

end Fingerprint
end QueryAlgebra
