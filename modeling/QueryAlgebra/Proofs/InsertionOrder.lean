import QueryAlgebra.Fingerprint
import Mathlib.Data.List.Infix
import Mathlib.Data.List.Nodup

/-!
# Dictionaries in any order

The entries of a dictionary are written in the order of the fingerprints of their keys,
so that the order in which they were set does not matter.  It does matter where several
keys share a fingerprint, as a text and the bytes of the text do: the sort is stable and
keeps such entries in the order in which they were set.

Two orders of the same entries give the same stream exactly if, for every fingerprint,
the entries whose keys have it give the same bytes one after another.  The same holds
with the dictionary anywhere inside another value, if it is not left out of a long list.

Main results:

- Theorem `filter_mergeSort`: a stable sort keeps the elements of one key in order.
- Theorem `flatMap_eq_iff_of_sorted`: two sorted lists with blocks of the same sizes give
  the same bytes exactly if they do so for each key.
- Theorem `stream_within_eq_iff`: what a change inside a value does to its stream.
- Theorem `stream_reordered_iff`: exactly when two orders give the same stream.
-/

namespace QueryAlgebra
namespace Sorting

/-! ## Sorted lists of blocks -/

section Keyed

variable {α β γ : Type} {le : α → α → Bool} {key : α → β}

/-- A total order of elements by their keys. -/
structure OrdersBy (le : α → α → Bool) (key : α → β) : Prop where
  trans : ∀ x y z, le x y = true → le y z = true → le x z = true
  total : ∀ x y, (le x y || le y x) = true
  tied_iff : ∀ x y, le x y = true ∧ le y x = true ↔ key x = key y

/-- Elements with one key may stand in either order. -/
theorem OrdersBy.le_of_key_eq (hle : OrdersBy le key) {x y : α} (hkey : key x = key y) :
    le x y = true :=
  ((hle.tied_iff x y).mpr hkey).1

/-- Two lists have as many elements with the same key and blocks of the same length. -/
def SameSizes (key : α → β) (block : α → List γ) (xs ys : List α) : Prop :=
  (xs.map fun x => (key x, (block x).length)).Perm (ys.map fun y => (key y, (block y).length))

variable {block : α → List γ} {xs ys : List α}

/-- Lists with blocks of the same sizes make texts of one length. -/
theorem SameSizes.flatMap_length_eq (hsizes : SameSizes key block xs ys) :
    (xs.flatMap block).length = (ys.flatMap block).length := by
  have hlengths := (hsizes.map Prod.snd).sum_nat
  simpa [List.length_flatMap, Function.comp_def] using hlengths

/-- Picking elements by their keys keeps the sizes of the blocks. -/
theorem SameSizes.filter (hsizes : SameSizes key block xs ys) (p : β → Bool) :
    SameSizes key block (xs.filter fun x => p (key x)) (ys.filter fun y => p (key y)) := by
  have hfilter := List.Perm.filter (fun size => p size.1) hsizes
  simpa [SameSizes, List.filter_map, Function.comp_def] using hfilter

/-- Every key of the one list is one of the other. -/
theorem SameSizes.exists_key_eq (hsizes : SameSizes key block xs ys) {y : α} (hy : y ∈ ys) :
    ∃ x ∈ xs, key x = key y := by
  have hmem := hsizes.mem_iff.mpr (List.mem_map_of_mem hy)
  rcases List.mem_map.mp hmem with ⟨x, hx, hsame⟩
  exact ⟨x, hx, congrArg Prod.fst hsame⟩

variable [DecidableEq β]

/-- A stable sort keeps the elements of one key in order. -/
theorem filter_mergeSort (hle : OrdersBy le key) (xs : List α) (k : β) :
    (xs.mergeSort le).filter (fun x => key x = k) = xs.filter fun x => key x = k := by
  have htied : (xs.filter fun x => key x = k).Pairwise fun x y => le x y = true := by
    apply List.pairwise_of_forall_mem_list
    intro x hx y hy
    simp only [List.mem_filter, decide_eq_true_eq] at hx hy
    exact hle.le_of_key_eq (hx.2.trans hy.2.symm)
  have hsublist := (List.sublist_mergeSort hle.trans hle.total htied
    List.filter_sublist).filter fun x => decide (key x = k)
  rw [List.filter_filter] at hsublist
  simp only [Bool.and_self] at hsublist
  exact (hsublist.eq_of_length ((List.mergeSort_perm xs le).filter _).length_eq.symm).symm

/-- In a sorted list the elements of the least key stand in front. -/
theorem eq_append_of_least (hle : OrdersBy le key) {xs : List α} {z : α}
    (hsorted : xs.Pairwise fun x y => le x y = true) (hleast : ∀ x ∈ xs, le z x = true) :
    xs = (xs.filter fun x => key x = key z) ++ xs.filter fun x => key x ≠ key z := by
  induction xs with
  | nil => rfl
  | cons x xs ih =>
      rw [List.pairwise_cons] at hsorted
      rw [List.forall_mem_cons] at hleast
      by_cases hx : key x = key z
      · have hrest := ih hsorted.2 hleast.2
        simp only [List.filter_cons, hx, decide_true, if_true, ne_eq, not_true_eq_false,
          decide_false, Bool.false_eq_true, if_false, List.cons_append]
        rw [← hrest]
      · -- Behind a greater key no element of the least key can follow.
        have hgreater : ∀ y ∈ x :: xs, key y ≠ key z := by
          intro y hy hyz
          rcases List.mem_cons.mp hy with rfl | hy
          · exact hx hyz
          · have hback := hle.trans x y z (hsorted.1 y hy) (hle.le_of_key_eq hyz)
            exact hx ((hle.tied_iff x z).mp ⟨hback, hleast.1⟩)
        have hnone : ((x :: xs).filter fun y => key y = key z) = [] := by
          rw [List.filter_eq_nil_iff]
          intro y hy
          simpa using hgreater y hy
        have hall : ((x :: xs).filter fun y => key y ≠ key z) = x :: xs := by
          rw [List.filter_eq_self]
          intro y hy
          simpa using hgreater y hy
        rw [hnone, hall, List.nil_append]

/-- Picking the elements of one key after leaving out those of another. -/
theorem filter_ne_filter (xs : List α) (k l : β) :
    ((xs.filter fun x => key x ≠ l).filter fun x => key x = k) =
      if k = l then [] else xs.filter fun x => key x = k := by
  rw [List.filter_filter]
  split
  · rename_i hkl
    subst hkl
    rw [List.filter_eq_nil_iff]
    simp
  · rename_i hkl
    apply List.filter_congr
    intro x _
    by_cases hx : key x = k
    · simp [hx, hkl]
    · simp [hx]

/--
Two sorted lists with blocks of the same sizes give the same bytes one after another
exactly if they do so for each key.
-/
theorem flatMap_eq_iff_of_sorted (hle : OrdersBy le key)
    (hxs : xs.Pairwise fun x y => le x y = true) (hys : ys.Pairwise fun x y => le x y = true)
    (hsizes : SameSizes key block xs ys) :
    xs.flatMap block = ys.flatMap block ↔
      ∀ k, (xs.filter fun x => key x = k).flatMap block =
        (ys.filter fun y => key y = k).flatMap block := by
  induction hlength : xs.length using Nat.strong_induction_on generalizing xs ys with
  | h n ih =>
      cases xs with
      | nil =>
          have hcount := List.Perm.length_eq hsizes
          have hempty : ys = [] := List.eq_nil_of_length_eq_zero (by simpa using hcount.symm)
          simp [hempty]
      | cons z xs =>
          have hleast : ∀ x ∈ z :: xs, le z x = true := by
            intro x hx
            rcases List.mem_cons.mp hx with rfl | hx
            · exact hle.le_of_key_eq rfl
            · exact (List.pairwise_cons.mp hxs).1 x hx
          have hleast' : ∀ y ∈ ys, le z y = true := by
            intro y hy
            rcases hsizes.exists_key_eq hy with ⟨x, hx, hkey⟩
            exact hle.trans z x y (hleast x hx) (hle.le_of_key_eq hkey)
          have hshorter : ((z :: xs).filter fun x => key x ≠ key z).length < n := by
            rw [← hlength, List.length_filter_lt_length_iff_exists]
            exact ⟨z, List.mem_cons_self, by simp⟩
          -- The blocks of the least key take the same room in front of both lists.
          have hfront := (hsizes.filter fun k => k = key z).flatMap_length_eq
          have hrest := ih _ hshorter (hxs.filter _) (hys.filter _)
            (hsizes.filter fun k => k ≠ key z) rfl
          have hcut : (z :: xs).flatMap block = ys.flatMap block ↔
              ((z :: xs).filter fun x => key x = key z).flatMap block =
                  (ys.filter fun y => key y = key z).flatMap block ∧
                ((z :: xs).filter fun x => key x ≠ key z).flatMap block =
                  (ys.filter fun y => key y ≠ key z).flatMap block := by
            conv_lhs =>
              rw [eq_append_of_least hle hxs hleast, eq_append_of_least hle hys hleast',
                List.flatMap_append, List.flatMap_append]
            constructor
            · intro htext
              exact List.append_inj htext hfront
            · rintro ⟨hfirst, hlater⟩
              rw [hfirst, hlater]
          rw [hcut, hrest]
          constructor
          · rintro ⟨hfirst, hlater⟩ k
            by_cases hk : k = key z
            · rw [hk, hfirst]
            · have hclass := hlater k
              rwa [filter_ne_filter, filter_ne_filter, if_neg hk, if_neg hk] at hclass
          · intro hclasses
            refine ⟨hclasses (key z), ?_⟩
            intro k
            rw [filter_ne_filter, filter_ne_filter]
            split
            · rfl
            · exact hclasses k

end Keyed

end Sorting

namespace Fingerprint

open Sorting

/-! ## Streams of entries -/

/-- Entries are ordered by the fingerprints of their keys. -/
theorem ordersBy_print :
    OrdersBy (fun x y : Text × Bytes => decide (¬ y.1 < x.1)) Prod.fst where
  trans x y z hxy hyz := by
    rw [decide_eq_true_iff] at *
    exact List.le_trans hxy hyz
  total x y := by
    rw [Bool.or_eq_true, decide_eq_true_iff, decide_eq_true_iff]
    exact List.le_total x.1 y.1
  tied_iff x y := by
    rw [decide_eq_true_iff, decide_eq_true_iff]
    constructor
    · rintro ⟨hxy, hyx⟩
      exact List.le_antisymm hxy hyx
    · intro hkey
      rw [hkey]
      exact ⟨List.lt_irrefl _, List.lt_irrefl _⟩

/-- What is written of an entry. -/
def entryBytes (e : Bytes × Bytes) : Bytes :=
  e.1 ++ e.2

/-- The bytes of the entries whose keys have a fingerprint, in their order. -/
def tiedBytes (print : Text) (entries : List (Bytes × Bytes)) : Bytes :=
  (entries.filter fun e => ofStream e.1 = print).flatMap entryBytes

/-- The entries with the fingerprints of their keys, in the order in which they are written. -/
def sortedEntries (entries : List (Bytes × Bytes)) : List (Text × Bytes) :=
  (entries.map fun e => (ofStream e.1, entryBytes e)).mergeSort fun x y => decide (¬ y.1 < x.1)

theorem sortedEntries_perm (entries : List (Bytes × Bytes)) :
    (sortedEntries entries).Perm (entries.map fun e => (ofStream e.1, entryBytes e)) :=
  List.mergeSort_perm _ _

theorem sortedEntries_pairwise (entries : List (Bytes × Bytes)) :
    (sortedEntries entries).Pairwise fun x y => decide (¬ y.1 < x.1) = true :=
  List.pairwise_mergeSort ordersBy_print.trans ordersBy_print.total _

/-- The bytes of entries are those of the sorted ones, one after another. -/
theorem entryStream_eq (entries : List (Bytes × Bytes)) :
    entryStream entries = (sortedEntries entries).flatMap Prod.snd := by
  rw [List.flatMap_def]
  rfl

/-- Sorting does not touch the order of entries with the same fingerprint. -/
theorem flatMap_filter_sortedEntries (print : Text) (entries : List (Bytes × Bytes)) :
    ((sortedEntries entries).filter fun x => x.1 = print).flatMap Prod.snd =
      tiedBytes print entries := by
  rw [sortedEntries, filter_mergeSort ordersBy_print, List.filter_map, List.flatMap_map]
  rfl

/-- The fingerprint of the key of an entry, and how much is written of the entry. -/
def entrySize (e : Bytes × Bytes) : Text × Nat :=
  (ofStream e.1, (entryBytes e).length)

/-- Sorting keeps the sizes of the entries. -/
theorem map_sortedEntries_perm (entries : List (Bytes × Bytes)) :
    ((sortedEntries entries).map fun x => (x.1, x.2.length)).Perm (entries.map entrySize) := by
  have hperm := (sortedEntries_perm entries).map fun x => (x.1, x.2.length)
  rwa [List.map_map] at hperm

/--
Entries of the same sizes give the same stream exactly if those with the same fingerprint
give the same bytes one after another.
-/
theorem entryStream_eq_iff {entries others : List (Bytes × Bytes)}
    (hsizes : (entries.map entrySize).Perm (others.map entrySize)) :
    entryStream entries = entryStream others ↔
      ∀ print, tiedBytes print entries = tiedBytes print others := by
  have hsame : SameSizes Prod.fst Prod.snd (sortedEntries entries) (sortedEntries others) :=
    (map_sortedEntries_perm entries).trans (hsizes.trans (map_sortedEntries_perm others).symm)
  rw [entryStream_eq, entryStream_eq, flatMap_eq_iff_of_sorted ordersBy_print
    (sortedEntries_pairwise entries) (sortedEntries_pairwise others) hsame]
  simp only [flatMap_filter_sortedEntries]

theorem length_entryStream (entries : List (Bytes × Bytes)) :
    (entryStream entries).length = (entries.flatMap entryBytes).length := by
  have hperm := (sortedEntries_perm entries).flatMap_right Prod.snd
  rw [List.flatMap_map] at hperm
  rw [entryStream_eq, hperm.length_eq]

/-- The stream of entries tells the value of each, if all else is known. -/
theorem entryStream_value_inj {before after : List (Bytes × Bytes)} {key v w : Bytes} :
    entryStream (before ++ (key, v) :: after) = entryStream (before ++ (key, w) :: after) ↔
      v = w := by
  constructor
  · intro hstream
    have hlength : v.length = w.length := by
      have htotal := congrArg List.length hstream
      rw [length_entryStream, length_entryStream] at htotal
      simp only [List.flatMap_append, List.flatMap_cons, entryBytes,
        List.length_append] at htotal
      omega
    have hsizes : ((before ++ (key, v) :: after).map entrySize).Perm
        ((before ++ (key, w) :: after).map entrySize) := by
      simp [entrySize, entryBytes, hlength]
    have htied := (entryStream_eq_iff hsizes).mp hstream (ofStream key)
    simpa [tiedBytes, entryBytes] using htied
  · rintro rfl
    rfl

/-! ## Streams of parts -/

/-- The entries of a dictionary are written by the streams of their keys and values. -/
theorem entryStreams_eq (copied : Bool) (depth : Int) (entries : List (Value × Value)) :
    entryStreams copied depth entries =
      entries.map fun e => (streamIn copied depth e.1, streamIn copied depth e.2) := by
  induction entries with
  | nil => rfl
  | cons e entries ih =>
      rw [entryStreams, ih]
      rfl

/-- The fields of a record are written as those of a copy, with their names as texts. -/
theorem fieldStreams_eq (depth : Int) (fields : List (Text × Value)) :
    fieldStreams depth fields =
      fields.map fun f => (streamIn true depth (.text f.1), streamIn true depth f.2) := by
  induction fields with
  | nil => rfl
  | cons f fields ih =>
      rw [fieldStreams, ih]
      rfl

/-- What is written of an item, or in its place. -/
def itemBytes (copied : Bool) (depth : Int) (count index : Nat) (v : Value) : Bytes :=
  if isCounted count index then streamIn copied depth v
  else if index = keptItems then gapMark depth
  else []

/-- The bytes of items are those of the first and then those of the others. -/
theorem itemStream_cons (copied : Bool) (depth : Int) (count index : Nat) (v : Value)
    (rest : List Value) :
    itemStream copied depth count index (v :: rest) =
      itemBytes copied depth count index v ++ itemStream copied depth count (index + 1) rest := by
  rw [itemStream]
  rfl

/-- The bytes of items are those of a first part and then those of the rest. -/
theorem itemStream_append (copied : Bool) (depth : Int) (count index : Nat)
    (before rest : List Value) :
    itemStream copied depth count index (before ++ rest) =
      itemStream copied depth count index before ++
        itemStream copied depth count (index + before.length) rest := by
  induction before generalizing index with
  | nil => simp [itemStream]
  | cons v before ih =>
      rw [List.cons_append, itemStream_cons, itemStream_cons, ih, List.append_assoc,
        List.length_cons, Nat.add_right_comm, Nat.add_assoc]

/-- Items have the same bytes if they do not count or have the same stream. -/
theorem itemBytes_eq_iff {copied : Bool} {depth : Int} {count index : Nat} {v w : Value} :
    itemBytes copied depth count index v = itemBytes copied depth count index w ↔
      isCounted count index = false ∨ streamIn copied depth v = streamIn copied depth w := by
  cases hcounted : isCounted count index <;> simp [itemBytes, hcounted]

/-- The stream of the items of a list tells that of each item which counts. -/
theorem itemStream_item_inj {copied : Bool} {depth : Int} {count : Nat}
    {before after : List Value} {v w : Value} :
    itemStream copied depth count 0 (before ++ v :: after) =
        itemStream copied depth count 0 (before ++ w :: after) ↔
      isCounted count before.length = false ∨
        streamIn copied depth v = streamIn copied depth w := by
  rw [itemStream_append, itemStream_append, itemStream_cons, itemStream_cons,
    List.append_cancel_left_eq, List.append_cancel_right_eq, Nat.zero_add, itemBytes_eq_iff]

/-! ## Places inside a value -/

/--
A place in a container, with what stands around it.  Members of sets and keys of
dictionaries hold no dictionaries.
-/
inductive Frame where
  | listItem (before after : List Value)
  | tupleItem (before after : List Value)
  | entryValue (before : List (Value × Value)) (key : Value) (after : List (Value × Value))
  | fieldValue (before : List (Text × Value)) (name : Text) (after : List (Text × Value))

namespace Frame

/-- The container with a value in the place. -/
def fill : Frame → Value → Value
  | listItem before after, v => .list (before ++ v :: after)
  | tupleItem before after, v => .tuple (before ++ v :: after)
  | entryValue before key after, v => .dict (before ++ (key, v) :: after)
  | fieldValue before name after, v => .record (before ++ (name, v) :: after)

/-- How much deeper the place is than the container: a record adds a level for its copy. -/
def levels (copied : Bool) : Frame → Nat
  | listItem _ _ => 1
  | tupleItem _ _ => 1
  | entryValue _ _ _ => 1
  | fieldValue _ _ _ => if copied then 1 else 2

/-- The place lies in the copy of a record: in that of the container, or around it already. -/
def inCopy (copied : Bool) : Frame → Bool
  | listItem _ _ => copied
  | tupleItem _ _ => copied
  | entryValue _ _ _ => copied
  | fieldValue _ _ _ => true

/-- The place is left out of a long list. -/
def IsLeftOut : Frame → Prop
  | listItem before after => isCounted (before.length + (after.length + 1)) before.length = false
  | tupleItem before after => isCounted (before.length + (after.length + 1)) before.length = false
  | entryValue _ _ _ => False
  | fieldValue _ _ _ => False

end Frame

/-- The fields of a record, at the depth at which the dictionary of them is written. -/
theorem entryStream_field_iff {depth : Int} {before after : List (Text × Value)} {name : Text}
    {v w : Value} :
    entryStream (fieldStreams depth (before ++ (name, v) :: after)) =
        entryStream (fieldStreams depth (before ++ (name, w) :: after)) ↔
      streamIn true depth v = streamIn true depth w := by
  simp only [fieldStreams_eq, List.map_append, List.map_cons, entryStream_value_inj]

/-- What is written of a container tells the stream of the value in a place which counts. -/
theorem body_fill_eq_iff {copied : Bool} {depth : Int} (f : Frame) {v w : Value} :
    body copied depth (f.fill v) = body copied depth (f.fill w) ↔
      f.IsLeftOut ∨ streamIn (f.inCopy copied) (depth + f.levels copied) v =
        streamIn (f.inCopy copied) (depth + f.levels copied) w := by
  cases f with
  | listItem before after =>
      simp only [Frame.fill, body, List.length_append, List.length_cons,
        List.append_cancel_left_eq, itemStream_item_inj]
      rfl
  | tupleItem before after =>
      simp only [Frame.fill, body, List.length_append, List.length_cons,
        List.append_cancel_left_eq, itemStream_item_inj]
      rfl
  | entryValue before key after =>
      simp only [Frame.fill, body, List.length_append, List.length_cons,
        List.append_cancel_left_eq, entryStreams_eq, List.map_append, List.map_cons,
        entryStream_value_inj, Frame.IsLeftOut, false_or]
      rfl
  | fieldValue before name after =>
      cases copied with
      | true =>
          simp only [Frame.fill, body, List.length_append, List.length_cons,
            List.append_cancel_left_eq, entryStream_field_iff, Frame.IsLeftOut, false_or]
          rfl
      | false =>
          -- The dictionary of the fields may be too deep where the record is not.
          by_cases hdeep : maxDepth < depth + 1
          · have hdeeper : maxDepth < depth + 2 := by omega
            simp [Frame.fill, body, hdeep, Frame.levels, streamIn_of_lt hdeeper]
          · simp only [Frame.fill, body, if_neg hdeep, List.length_append, List.length_cons,
              List.append_cancel_left_eq, entryStream_field_iff, Frame.IsLeftOut, false_or]
            rfl

/-- The stream of a container tells that of the value in a place which counts. -/
theorem stream_fill_eq_iff {copied : Bool} {depth : Int} (f : Frame) {v w : Value} :
    streamIn copied depth (f.fill v) = streamIn copied depth (f.fill w) ↔
      f.IsLeftOut ∨ streamIn (f.inCopy copied) (depth + f.levels copied) v =
        streamIn (f.inCopy copied) (depth + f.levels copied) w := by
  by_cases hdeep : maxDepth < depth
  · have hdeeper : maxDepth < depth + f.levels copied := by omega
    simp [streamIn_of_lt hdeep, streamIn_of_lt hdeeper]
  · have hshallow : depth ≤ maxDepth := by omega
    rw [streamIn_of_le hshallow, streamIn_of_le hshallow, body_fill_eq_iff]

/-- A value in a place inside containers, from the outermost one on. -/
def within (places : List Frame) (v : Value) : Value :=
  places.foldr Frame.fill v

/-- How deep a place inside containers is. -/
def levelsOf : Bool → List Frame → Nat
  | _, [] => 0
  | copied, f :: places => f.levels copied + levelsOf (f.inCopy copied) places

/-- A place inside containers lies in the copy of a record. -/
def inCopyOf : Bool → List Frame → Bool
  | copied, [] => copied
  | copied, f :: places => inCopyOf (f.inCopy copied) places

/-- The stream of a value tells that of a part of it which is not left out. -/
theorem stream_within_eq_iff (copied : Bool) (places : List Frame) (depth : Int) {v w : Value} :
    streamIn copied depth (within places v) = streamIn copied depth (within places w) ↔
      (∃ f ∈ places, f.IsLeftOut) ∨
        streamIn (inCopyOf copied places) (depth + levelsOf copied places) v =
          streamIn (inCopyOf copied places) (depth + levelsOf copied places) w := by
  induction places generalizing depth copied with
  | nil => simp [within, levelsOf, inCopyOf]
  | cons f places ih =>
      have hlevels : depth + f.levels copied + levelsOf (f.inCopy copied) places =
          depth + levelsOf copied (f :: places) := by
        rw [levelsOf]
        omega
      rw [within, within, List.foldr_cons, List.foldr_cons, stream_fill_eq_iff]
      rw [← within, ← within, ih, hlevels, inCopyOf]
      simp [or_assoc]

/-! ## Entries in another order -/

/-- The fingerprint by which the entry of a key is placed in a dictionary. -/
def keyPrint (copied : Bool) (depth : Int) (key : Value) : Text :=
  ofStream (streamIn copied depth key)

/-- What is written of the entries whose keys have a fingerprint, in their order. -/
def tied (copied : Bool) (depth : Int) (print : Text) (entries : List (Value × Value)) : Bytes :=
  (entries.filter fun e => keyPrint copied depth e.1 = print).flatMap fun e =>
    streamIn copied depth e.1 ++ streamIn copied depth e.2

/-- The bytes behind one fingerprint are those of the entries that share it. -/
theorem tiedBytes_entryStreams (copied : Bool) (depth : Int) (print : Text)
    (entries : List (Value × Value)) :
    tiedBytes print (entryStreams copied depth entries) = tied copied depth print entries := by
  rw [tiedBytes, entryStreams_eq, List.filter_map, List.flatMap_map]
  rfl

/-- Below the limit of the depth all entries look the same. -/
theorem entryStreams_of_deep {copied : Bool} {depth : Int} (hdeep : maxDepth < depth)
    (entries : List (Value × Value)) :
    entryStreams copied depth entries =
      List.replicate entries.length (depthMark, depthMark) := by
  rw [entryStreams_eq]
  simp only [streamIn_of_lt hdeep]
  exact List.map_const' ..

/-- Two orders of the entries of a dictionary give the same stream if they do so for each print. -/
theorem stream_dict_eq_iff {copied : Bool} {depth : Int} {entries others : List (Value × Value)}
    (hperm : entries.Perm others) :
    streamIn copied depth (.dict entries) = streamIn copied depth (.dict others) ↔
      ∀ print, tied copied (depth + 1) print entries = tied copied (depth + 1) print others := by
  simp only [← tiedBytes_entryStreams]
  by_cases hdeep : maxDepth < depth
  · -- Nothing is told of the entries, and as many of them look the same in both orders.
    have hdeeper : maxDepth < depth + 1 := by omega
    simp [streamIn_of_lt hdeep, entryStreams_of_deep hdeeper, hperm.length_eq]
  · have hshallow : depth ≤ maxDepth := by omega
    have hsizes : ((entryStreams copied (depth + 1) entries).map entrySize).Perm
        ((entryStreams copied (depth + 1) others).map entrySize) := by
      rw [entryStreams_eq, entryStreams_eq]
      exact (hperm.map _).map _
    rw [streamIn_of_le hshallow, streamIn_of_le hshallow, body, body, hperm.length_eq,
      List.append_cancel_left_eq, entryStream_eq_iff hsizes]

/-- Dictionaries whose entries have the same streams have the same stream. -/
theorem stream_dict_of_entryStreams {copied : Bool} {depth : Int}
    {entries others : List (Value × Value)}
    (hstreams : entryStreams copied (depth + 1) entries =
      entryStreams copied (depth + 1) others) :
    streamIn copied depth (.dict entries) = streamIn copied depth (.dict others) := by
  have hlength := congrArg List.length hstreams
  simp only [entryStreams_eq, List.length_map] at hlength
  rw [streamIn, streamIn, body, body, hstreams, hlength]

/-- Where no two keys share a fingerprint, no order is left to the entries of one. -/
theorem tied_eq_of_nodup {copied : Bool} {depth : Int} {entries others : List (Value × Value)}
    (hperm : entries.Perm others)
    (hprints : (entries.map fun e => keyPrint copied depth e.1).Nodup) (print : Text) :
    tied copied depth print entries = tied copied depth print others := by
  have hone : (entries.filter fun e => keyPrint copied depth e.1 = print).length ≤ 1 := by
    have hcount := List.nodup_iff_count_le_one.mp hprints print
    rw [List.count, List.countP_map] at hcount
    rw [← List.countP_eq_length_filter]
    refine (List.countP_congr ?_).trans_le hcount
    intro e _
    simp
  have hsame := hperm.filter fun e => decide (keyPrint copied depth e.1 = print)
  rw [tied, tied]
  rcases Nat.le_one_iff_eq_zero_or_eq_one.mp hone with hlength | hlength
  · have hnone := List.length_eq_zero_iff.mp hlength
    rw [hnone] at hsame ⊢
    rw [← hsame.nil_eq]
  · rcases List.length_eq_one_iff.mp hlength with ⟨e, hsingle⟩
    rw [hsingle] at hsame ⊢
    rw [← hsame.singleton_eq]

/-! ## Values without a fingerprint -/

/-- Two values that keep a fingerprint from being taken in the same places. -/
structure BlockedAlike (v w : Value) : Prop where
  views_eq : holdsView v = holdsView w
  blocked_eq : ∀ depth, isBlocked depth v = isBlocked depth w

@[simp] theorem anyHoldsView_eq (items : List Value) :
    anyHoldsView items = items.any holdsView := by
  induction items with
  | nil => rfl
  | cons v items ih => rw [anyHoldsView, ih, List.any_cons]

@[simp] theorem entriesHoldView_eq (entries : List (Value × Value)) :
    entriesHoldView entries = entries.any fun e => holdsView e.1 || holdsView e.2 := by
  induction entries with
  | nil => rfl
  | cons e entries ih => rw [entriesHoldView, ih, List.any_cons]

@[simp] theorem fieldsHoldView_eq (fields : List (Text × Value)) :
    fieldsHoldView fields = fields.any fun f => holdsView f.2 := by
  induction fields with
  | nil => rfl
  | cons f fields ih => rw [fieldsHoldView, ih, List.any_cons]

/-- Entries are blocked if a key or a value is. -/
@[simp] theorem entriesBlocked_eq (depth : Int) (entries : List (Value × Value)) :
    entriesBlocked depth entries =
      entries.any fun e => isBlocked depth e.1 || isBlocked depth e.2 := by
  induction entries with
  | nil => rfl
  | cons e entries ih => rw [entriesBlocked, ih, List.any_cons]

/-- Items are blocked if a first part or the rest is. -/
theorem itemsBlocked_append (depth : Int) (count index : Nat) (before rest : List Value) :
    itemsBlocked depth count index (before ++ rest) =
      (itemsBlocked depth count index before ||
        itemsBlocked depth count (index + before.length) rest) := by
  induction before generalizing index with
  | nil => rfl
  | cons v before ih =>
      rw [List.cons_append, itemsBlocked, itemsBlocked, ih, List.length_cons, Bool.or_assoc,
        Nat.add_right_comm, Nat.add_assoc]

/-- The entries of a dictionary are looked at for views in any order. -/
theorem blockedAlike_of_perm {entries others : List (Value × Value)}
    (hperm : entries.Perm others) : BlockedAlike (.dict entries) (.dict others) where
  views_eq := by
    rw [holdsView, holdsView, entriesHoldView_eq, entriesHoldView_eq, hperm.any_eq]
  blocked_eq := by
    intro depth
    rw [isBlocked, isBlocked, entriesBlocked_eq, entriesBlocked_eq, hperm.any_eq]

/-- What stands around two values that are blocked alike does not tell them apart. -/
theorem BlockedAlike.fill {v w : Value} (halike : BlockedAlike v w) (f : Frame) :
    BlockedAlike (f.fill v) (f.fill w) := by
  cases f with
  | listItem before after =>
      refine ⟨?_, ?_⟩
      · simp [Frame.fill, holdsView, halike.views_eq]
      · intro depth
        simp [Frame.fill, isBlocked, itemsBlocked_append, itemsBlocked, halike.blocked_eq]
  | tupleItem before after =>
      refine ⟨?_, ?_⟩
      · simp [Frame.fill, holdsView, halike.views_eq]
      · intro depth
        simp [Frame.fill, isBlocked, itemsBlocked_append, itemsBlocked, halike.blocked_eq]
  | entryValue before key after =>
      refine ⟨?_, ?_⟩
      · simp [Frame.fill, holdsView, halike.views_eq]
      · intro depth
        simp [Frame.fill, isBlocked, halike.blocked_eq]
  | fieldValue before name after =>
      refine ⟨?_, ?_⟩
      · simp [Frame.fill, holdsView, halike.views_eq]
      · intro depth
        simp [Frame.fill, isBlocked, halike.views_eq]

/-- Values that are blocked alike are so wherever they stand. -/
theorem BlockedAlike.within {v w : Value} (halike : BlockedAlike v w) (places : List Frame) :
    BlockedAlike (within places v) (within places w) := by
  induction places with
  | nil => exact halike
  | cons f places ih => exact ih.fill f

/-- Values that are blocked alike and have the same stream have the same fingerprint, if any. -/
theorem fingerprintAt_eq_of_stream_eq {depth : Int} {v w : Value}
    (hblocked : isBlocked depth v = isBlocked depth w) (hstream : stream depth v = stream depth w) :
    fingerprintAt depth v = fingerprintAt depth w := by
  rw [fingerprintAt, fingerprintAt, hblocked, hstream]

/-! ## Fingerprints of dictionaries in any order -/

/--
Two orders of the same entries, in a dictionary anywhere inside a value, give the same
stream exactly if the dictionary is left out of a long list or, for every fingerprint,
the entries whose keys have it give the same bytes one after another.  Keys of different
fingerprints make the fingerprint of the value independent of the order.
-/
theorem stream_reordered_iff (places : List Frame) (depth : Int)
    {entries others : List (Value × Value)} (hperm : entries.Perm others) :
    (stream depth (within places (.dict entries)) =
          stream depth (within places (.dict others)) ↔
        (∃ f ∈ places, f.IsLeftOut) ∨
          ∀ print,
            tied (inCopyOf false places) (depth + levelsOf false places + 1) print entries =
              tied (inCopyOf false places) (depth + levelsOf false places + 1) print others) ∧
      ((entries.map fun e =>
          keyPrint (inCopyOf false places) (depth + levelsOf false places + 1) e.1).Nodup →
        fingerprintAt depth (within places (.dict entries)) =
          fingerprintAt depth (within places (.dict others))) := by
  have hstream := stream_within_eq_iff false places depth (v := .dict entries) (w := .dict others)
  rw [stream_dict_eq_iff hperm] at hstream
  refine ⟨hstream, ?_⟩
  intro hprints
  have halike := (blockedAlike_of_perm hperm).within places
  exact fingerprintAt_eq_of_stream_eq (halike.blocked_eq depth)
    (hstream.mpr (.inr (tied_eq_of_nodup hperm hprints)))

/-- Two entries with texts as keys. -/
def twoTexts : List (Value × Value) :=
  [(.text ['a'], .int 1), (.text ['b'], .int 2)]

/-- A dictionary in a record in a record in a list: the inner record adds one level only. -/
theorem stream_reordered_twoTexts :
    twoTexts.Perm twoTexts.reverse ∧
      (twoTexts.map fun e => keyPrint true 5 e.1).Nodup ∧
      fingerprint (.list [.int 7, .record [(['x'], .record [(['y'], .dict twoTexts)])]]) =
        fingerprint
          (.list [.int 7, .record [(['x'], .record [(['y'], .dict twoTexts.reverse)])]]) := by
  have hperm : twoTexts.Perm twoTexts.reverse := (List.reverse_perm _).symm
  have hprints : (twoTexts.map fun e => keyPrint true 5 e.1).Nodup := by decide +kernel
  exact ⟨hperm, hprints, (stream_reordered_iff
    [.listItem [.int 7] [], .fieldValue [] ['x'] [], .fieldValue [] ['y'] []] 0 hperm).2 hprints⟩

/-! ## Keys that share a fingerprint -/

/-- Entries whose keys share a stream are written in the order in which they were set. -/
theorem entryStream_of_same_key (key : Bytes) {entries : List (Bytes × Bytes)}
    (hkey : ∀ e ∈ entries, e.1 = key) :
    entryStream entries = entries.flatMap entryBytes := by
  have hsorted : (entries.map fun e => (ofStream e.1, entryBytes e)).Pairwise
      fun x y => decide (¬ y.1 < x.1) = true := by
    rw [List.pairwise_map]
    apply List.pairwise_of_forall_mem_list
    intro x hx y hy
    exact ordersBy_print.le_of_key_eq
      (congrArg ofStream ((hkey x hx).trans (hkey y hy).symm))
  rw [entryStream_eq, sortedEntries, List.mergeSort_of_pairwise hsorted, List.flatMap_map]

/-- A text and its bytes as keys, set one after the other. -/
def textAndBytes : List (Value × Value) :=
  [(.text ['a'], .int 1), (.bytes .fixed [97], .int 2)]

/-- The stream of a dictionary with two keys of one fingerprint. -/
theorem stream_textAndBytes :
    stream 0 (.dict textAndBytes) = [68, 50, 115, 97, 49, 115, 97, 50] := by
  rw [stream, streamIn, body, entryStream_of_same_key [115, 97]]
  · decide +kernel
  · decide +kernel

/-- The same entries in the other order have another stream. -/
theorem stream_textAndBytes_reverse :
    stream 0 (.dict textAndBytes.reverse) = [68, 50, 115, 97, 50, 115, 97, 49] := by
  rw [stream, streamIn, body, entryStream_of_same_key [115, 97]]
  · decide +kernel
  · decide +kernel

/-- The two orders of a text and its bytes give different fingerprints. -/
theorem fingerprint_textAndBytes_ne :
    Value.entriesOf textAndBytes = .ok textAndBytes ∧
      Value.entriesOf textAndBytes.reverse = .ok textAndBytes.reverse ∧
      textAndBytes.Perm textAndBytes.reverse ∧
      fingerprint (.dict textAndBytes) ≠ fingerprint (.dict textAndBytes.reverse) := by
  have hprints : ofStream [68, 50, 115, 97, 49, 115, 97, 50] ≠
      ofStream [68, 50, 115, 97, 50, 115, 97, 49] := by
    decide +kernel
  refine ⟨rfl, rfl, (List.reverse_perm _).symm, ?_⟩
  intro hsame
  have hfirst : fingerprint (.dict textAndBytes) = .ok (ofStream (stream 0 (.dict textAndBytes))) :=
    rfl
  have hsecond : fingerprint (.dict textAndBytes.reverse) =
      .ok (ofStream (stream 0 (.dict textAndBytes.reverse))) :=
    rfl
  rw [hfirst, hsecond, Except.ok.injEq, stream_textAndBytes, stream_textAndBytes_reverse] at hsame
  exact hprints hsame

end Fingerprint
end QueryAlgebra
