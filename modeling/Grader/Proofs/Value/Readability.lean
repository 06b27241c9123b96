import Grader.Proofs.Decimal.Written
import Grader.Proofs.Text.Nesting
import Grader.Proofs.Value.Order

/-! Unique readability of data. The quoted form of data is a closed text, in which separators only
stand between brackets or quotes, so that items and entries can be told apart in the forms of lists,
tuples and mappings. -/

namespace Grader.Value

open Text (IsApart IsClosed IsNested isApart_cons isApart_nil isPlain)

/-- Test data: nothing, truth values, numbers, texts, and lists, tuples and mappings of data. No two
keys of a mapping are quoted alike. -/
inductive IsData : Value → Prop
  | none : IsData none
  | bool (b : Bool) : IsData (bool b)
  | int (n : Int) : IsData (int n)
  | float (x : Float) : IsData (float x)
  | str (s : String) : IsData (str s)
  | list {xs : List Value} (items : ∀ x ∈ xs, IsData x) : IsData (list xs)
  | tuple {xs : List Value} (items : ∀ x ∈ xs, IsData x) : IsData (tuple xs)
  | dict {es : List (Value × Value)} (keys : ∀ k ∈ es.map (·.1), IsData k)
    (values : ∀ v ∈ es.map (·.2), IsData v) (apart : ((es.map (·.1)).map quoted).Nodup) :
    IsData (dict es)

theorem isData_list_iff {xs : List Value} : IsData (list xs) ↔ ∀ x ∈ xs, IsData x :=
  ⟨fun | .list items => items, .list⟩

theorem isData_tuple_iff {xs : List Value} : IsData (tuple xs) ↔ ∀ x ∈ xs, IsData x :=
  ⟨fun | .tuple items => items, .tuple⟩

theorem isData_dict_iff {es : List (Value × Value)} : IsData (dict es) ↔
    (∀ k ∈ es.map (·.1), IsData k) ∧ (∀ v ∈ es.map (·.2), IsData v) ∧
      ((es.map (·.1)).map quoted).Nodup :=
  ⟨fun | .dict keys values apart => ⟨keys, values, apart⟩, fun ⟨keys, values, apart⟩ =>
    .dict keys values apart⟩

theorem quotedItems_eq (vs : List Value) : quotedItems vs = vs.map quoted := by
  induction vs with
  | nil => rfl
  | cons v vs ih => rw [quotedItems, ih, List.map_cons]

def entryText (e : String × String) : String := e.1 ++ ": " ++ e.2

theorem quotedEntries_eq (es : List (Value × Value)) :
    quotedEntries es = (es.map (entryForms quoted)).map entryText := by
  induction es with
  | nil => rfl
  | cons e es ih => rw [quotedEntries, ih, List.map_cons, List.map_cons]; rfl

section Closed

theorem isPlain_of_isNumberChar {c : Char} (h : Decimal.isNumberChar c = true) :
    isPlain c = true := by
  by_contra hplain
  simp only [isPlain, Text.Reader.isOpening, Text.Reader.isClosing, Text.Reader.isMark,
    Text.Reader.isSeparator, Bool.not_eq_true', Bool.not_eq_false, Bool.or_eq_true, beq_iff_eq]
    at hplain
  rcases hplain with
    ((((rfl | rfl) | rfl) | ((rfl | rfl) | rfl)) | (rfl | rfl)) | (rfl | rfl) <;> cases h

theorem isNested_commas {ts : List String} (h : ∀ t ∈ ts, IsNested t.toList) :
    IsNested (commas ts).toList := by
  unfold commas
  induction ts with
  | nil => exact .nil
  | cons t ts ih =>
    obtain ⟨ht, hts⟩ := List.forall_mem_cons.mp h
    cases ts with
    | nil =>
      rw [String.intercalate_singleton]
      exact ht
    | cons u us =>
      rw [String.intercalate_cons_cons, String.toList_append, String.toList_append]
      exact (ht.append fun _ => rfl).append (ih hts)

theorem isNested_entryText {e : String × String} (hkey : IsNested e.1.toList)
    (hvalue : IsNested e.2.toList) : IsNested (entryText e).toList := by
  rw [entryText, String.toList_append, String.toList_append]
  exact (hkey.append fun _ => rfl).append hvalue

theorem isClosed_tupleText {ts : List String} (h : ∀ t ∈ ts, IsNested t.toList) :
    IsClosed (tupleText ts).toList := by
  have hcommas := isNested_commas h
  unfold tupleText
  split
  · rename_i t
    have hitem : IsNested (t.toList ++ [',']) :=
      (h t List.mem_cons_self).append fun _ => rfl
    simpa using hitem.enclosed (a := '(') (b := ')') ⟨rfl, rfl⟩ ⟨rfl, rfl, rfl⟩
  · simpa using hcommas.enclosed (a := '(') (b := ')') ⟨rfl, rfl⟩ ⟨rfl, rfl, rfl⟩

theorem isClosed_quoted {v : Value} (h : IsData v) : IsClosed v.quoted.toList := by
  -- Words and numbers are plain, a text has quotes around it, and all other data have brackets.
  induction h with
  | none => exact Text.isClosed_of_isPlain (by decide +kernel)
  | bool b => cases b <;> exact Text.isClosed_of_isPlain (by decide +kernel)
  | int n =>
    refine Text.isClosed_of_isPlain (List.all_eq_true.mpr fun c hc => ?_)
    exact isPlain_of_isNumberChar (List.all_eq_true.mp (Decimal.all_toString n) c hc)
  | float x =>
    have hwords : ("inf".toList ++ "nan".toList).all isPlain = true := by decide +kernel
    rw [List.all_eq_true] at hwords
    refine Text.isClosed_of_isPlain (List.all_eq_true.mpr fun c hc => ?_)
    rcases Decimal.mem_write hc with hnumber | hword | hword
    · exact isPlain_of_isNumberChar hnumber
    · exact hwords c (List.mem_append_left _ hword)
    · exact hwords c (List.mem_append_right _ hword)
  | str s =>
    rw [quoted, Text.Quoted.text, String.toList_ofList]
    exact Text.Quoted.isClosed_encode s.toList
  | @list xs _ ih =>
    have hitems : IsNested (commas (quotedItems xs)).toList := by
      rw [quotedItems_eq]
      exact isNested_commas (List.forall_mem_map.mpr fun x hx => (ih x hx).isNested)
    simpa [quoted] using hitems.enclosed (a := '[') (b := ']') ⟨rfl, rfl⟩ ⟨rfl, rfl, rfl⟩
  | tuple _ ih =>
    rw [quoted, quotedItems_eq]
    exact isClosed_tupleText (List.forall_mem_map.mpr fun x hx => (ih x hx).isNested)
  | @dict es _ _ _ ihkeys ihvalues =>
    have hentries : IsNested (commas (quotedEntries es)).toList := by
      rw [quotedEntries_eq, List.map_map]
      refine isNested_commas (List.forall_mem_map.mpr fun e he => ?_)
      exact isNested_entryText (ihkeys e.1 (List.mem_map_of_mem he)).isNested
        (ihvalues e.2 (List.mem_map_of_mem he)).isNested
    simpa [quoted, braced] using
      hentries.enclosed (a := '\x7b') (b := '\x7d') ⟨rfl, rfl⟩ ⟨rfl, rfl, rfl⟩

end Closed

section Apart

/-- Texts with commas between them are told apart if each of them ends where a separator follows. -/
theorem commas_inj {α : Type} {f : α → String} {xs ys : List α} (hlength : xs.length = ys.length)
    (hends : ∀ x ∈ xs, ∀ y ∈ ys, ∀ rest rest', IsApart rest → IsApart rest' →
      (f x).toList ++ rest = (f y).toList ++ rest' → x = y ∧ rest = rest')
    (h : commas (xs.map f) = commas (ys.map f)) : xs = ys := by
  unfold commas at h
  induction xs generalizing ys with
  | nil => exact (List.eq_nil_of_length_eq_zero hlength.symm).symm
  | cons x xs ih =>
    cases ys with
    | nil => cases hlength
    | cons y ys =>
      have hcomma (cs : List Char) : IsApart (", ".toList ++ cs) := isApart_cons rfl _
      have hlist := congrArg String.toList h
      cases xs with
      | nil =>
        obtain rfl : ys = [] := List.eq_nil_of_length_eq_zero (by simpa using hlength.symm)
        simp only [List.map_cons, List.map_nil, String.intercalate_singleton] at hlist
        have hitem : (f x).toList ++ [] = (f y).toList ++ [] := by simpa using hlist
        have hxy := hends x (by simp) y (by simp) [] [] isApart_nil isApart_nil hitem
        rw [hxy.1]
      | cons x' xs =>
        cases ys with
        | nil => simp at hlength
        | cons y' ys =>
          simp only [List.map_cons, String.intercalate_cons_cons, String.toList_append,
            List.append_assoc] at hlist
          -- The first items end where they have to, and behind the comma the rest is told apart.
          obtain ⟨hxy, hrest⟩ := hends x (by simp) y (by simp) _ _ (hcomma _) (hcomma _) hlist
          have hmore := List.append_cancel_left hrest
          have htail : x' :: xs = y' :: ys := by
            have hends' (a : α) (ha : a ∈ x' :: xs) (b : α) (hb : b ∈ y' :: ys) :=
              hends a (List.mem_cons_of_mem x ha) b (List.mem_cons_of_mem y hb)
            refine ih (by simpa using hlength) hends' ?_
            rw [← String.toList_inj]
            exact hmore
          rw [hxy, htail]

theorem commas_inj_of_isClosed {ts us : List String} (hlength : ts.length = us.length)
    (hts : ∀ t ∈ ts, IsClosed t.toList) (hus : ∀ u ∈ us, IsClosed u.toList)
    (h : commas ts = commas us) : ts = us := by
  refine commas_inj (f := id) hlength ?_ (by simpa using h)
  intro t ht u hu rest rest' hrest hrest' happend
  obtain ⟨htu, heq⟩ := (hts t ht).append_inj (hus u hu) hrest hrest' happend
  exact ⟨String.toList_inj.mp htu, heq⟩

/-- The entry of a mapping ends where a separator follows, and its key ends at the colon. -/
theorem entryText_append_inj {e e' : String × String} {rest rest' : List Char}
    (he : IsClosed e.1.toList ∧ IsClosed e.2.toList)
    (he' : IsClosed e'.1.toList ∧ IsClosed e'.2.toList)
    (hrest : IsApart rest) (hrest' : IsApart rest')
    (h : (entryText e).toList ++ rest = (entryText e').toList ++ rest') :
    e = e' ∧ rest = rest' := by
  have hcolon (cs : List Char) : IsApart (": ".toList ++ cs) := isApart_cons rfl _
  simp only [entryText, String.toList_append, List.append_assoc] at h
  obtain ⟨hkey, htail⟩ := he.1.append_inj he'.1 (hcolon _) (hcolon _) h
  obtain ⟨hvalue, heq⟩ := he.2.append_inj he'.2 hrest hrest' (List.append_cancel_left htail)
  exact ⟨Prod.ext (String.toList_inj.mp hkey) (String.toList_inj.mp hvalue), heq⟩

theorem commas_entryText_inj {es fs : List (String × String)} (hlength : es.length = fs.length)
    (hes : ∀ e ∈ es, IsClosed e.1.toList ∧ IsClosed e.2.toList)
    (hfs : ∀ f ∈ fs, IsClosed f.1.toList ∧ IsClosed f.2.toList)
    (h : commas (es.map entryText) = commas (fs.map entryText)) : es = fs :=
  commas_inj hlength (fun e he f hf _ _ => entryText_append_inj (hes e he) (hfs f hf)) h

theorem tupleText_inj {ts us : List String} (hlength : ts.length = us.length)
    (hts : ∀ t ∈ ts, IsClosed t.toList) (hus : ∀ u ∈ us, IsClosed u.toList)
    (h : tupleText ts = tupleText us) : ts = us := by
  match ts, us with
  | [], [] => rfl
  | [t], [u] =>
    have hitem : t = u := by simpa [tupleText] using h
    rw [hitem]
  | t :: t' :: ts, u :: u' :: us =>
    have hcommas : commas (t :: t' :: ts) = commas (u :: u' :: us) := by
      simpa [tupleText] using h
    exact commas_inj_of_isClosed hlength hts hus hcommas

end Apart

end Grader.Value
