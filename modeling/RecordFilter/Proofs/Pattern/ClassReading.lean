/-
# The class of a glob is read again

A class of a glob is written into the search pattern, and the reader takes it apart once more, by
rules of its own: two hyphens side by side are a sign there that takes a class away from another.
The characters of the class are met by the reader one by one (`readOn?`), and no other sign of it is
among them, since each has a backslash.
-/

import Mathlib
import RecordFilter.Proofs.Pattern.Glob
import RecordFilter.Proofs.Pattern.GlobClass

namespace RecordFilter
namespace Pattern

open Reader Regex

namespace Glob

/-! ### One character -/

namespace Listed

/-- A character as an item of a class. -/
def literal (x : Listed) : Literal := ⟨x.char, false⟩

variable {x y : Listed} {cs : List Char}

/-- A character has a backslash where the reader would see a sign in it, but for a hyphen. -/
theorem source_cases (hx : x.Avoids ['\\']) :
    (x.source = ['\\', x.char] ∧ isEscapable x.char = true) ∨
      x.source = [x.char] ∧ x.char ∉ ['\\', '[', ']', '^', '&', '~'] ∧
        (x.char = '-' → x = .bare '-') := by
  cases x with
  | bare c =>
    have hescapable : ['[', ']', '^', '&', '~'].all isEscapable = true := by decide
    by_cases hc : c ∈ ['[', ']', '^', '&', '~']
    · left
      exact ⟨if_pos (List.contains_iff_mem.2 hc), List.all_eq_true.1 hescapable c hc⟩
    · right
      refine ⟨if_neg (mt List.contains_iff_mem.1 hc), ?_, fun h => congrArg bare h⟩
      exact List.mem_cons.not.2 (not_or.2 ⟨fun h => hx (h ▸ List.mem_singleton_self _), hc⟩)
  | escaped c =>
    have hescapable : specialChars.all isEscapable = true := by decide
    by_cases hc : c ∈ specialChars
    · left
      exact ⟨if_pos (List.contains_iff_mem.2 hc), List.all_eq_true.1 hescapable c hc⟩
    · right
      refine ⟨if_neg (mt List.contains_iff_mem.1 hc), fun h => hc ?_, fun h => absurd ?_ hc⟩
      · exact (by decide : ['\\', '[', ']', '^', '&', '~'] ⊆ specialChars) h
      · exact (show c = '-' from h).symm ▸ (by decide : '-' ∈ specialChars)

/-- A member is read as its character. -/
theorem classPrimitive?_source (hx : x.Avoids ['\\']) (cs : List Char) :
    classPrimitive? false (x.source ++ cs) = some (.literal x.literal, cs) := by
  rcases source_cases hx with ⟨hs, he⟩ | ⟨hs, hc, -⟩
  · rw [hs]
    simp [classPrimitive?, escape?, he, literal]
  · rw [hs, List.singleton_append, classPrimitive?.eq_3]
    · rfl
    · exact fun h => hc (h ▸ List.mem_cons_self)

/-- In front of a character other than a hyphen the reader sees no sign. -/
theorem exists_source (hx : x.Avoids ['\\']) (hh : x ≠ .bare '-') :
    ∃ c more, x.source = c :: more ∧ c ∉ ['[', ']', '^', '&', '-', '~'] := by
  rcases source_cases hx with ⟨hs, -⟩ | ⟨hs, hc, hhyphen⟩
  · exact ⟨_, _, hs, by decide⟩
  · refine ⟨_, _, hs, fun h => ?_⟩
    by_cases hminus : x.char = '-'
    · exact hh (hhyphen hminus)
    · simp_all

end Listed

variable {x y : Listed} {cs : List Char} {limit : Nat} {k : OpenClass}

/-- A member without a hyphen behind it is an item alone. -/
theorem classRange?_one (hx : x.Avoids ['\\']) (hcs : cs ≠ []) (hh : cs.head? ≠ some '-') :
    classRange? false (x.source ++ cs) = some (.char x.literal, cs) := by
  rw [classRange?, Listed.classPrimitive?_source hx]
  cases cs with
  | nil => exact absurd rfl hcs
  | cons c more =>
    have hc : c ≠ '-' := fun h => hh (h ▸ rfl)
    simp only [skip]
    simp [hc, classItem?]

/-- A hyphen before a closing bracket or another hyphen is left for later. -/
theorem classRange?_hyphen (hx : x.Avoids ['\\'])
    (hcs : cs.head? = some ']' ∨ cs.head? = some '-') :
    classRange? false (x.source ++ '-' :: cs) = some (.char x.literal, '-' :: cs) := by
  rw [classRange?, Listed.classPrimitive?_source hx]
  have hpeek : peek false cs = cs.head? := rfl
  simp only [skip, Bool.false_eq_true, if_false, hpeek, if_pos hcs, classItem?, Option.map_some]

/-- Two members with a hyphen between them are a range, if they are in order. -/
theorem classRange?_range (hx : x.Avoids ['\\']) (hy : y.Avoids ['\\']) (hh : y ≠ .bare '-')
    (cs : List Char) : classRange? false (x.source ++ '-' :: (y.source ++ cs)) =
      if x.char ≤ y.char then some (.range x.literal y.literal, cs) else none := by
  obtain ⟨c, more, hs, hc⟩ := Listed.exists_source hy hh
  have hhead : ¬(peek false (y.source ++ cs) = some ']' ∨
      peek false (y.source ++ cs) = some '-') := by
    rw [hs]
    simp only [peek, Bool.false_eq_true, if_false, List.cons_append, List.head?_cons]
    simp_all
  rw [classRange?, Listed.classPrimitive?_source hx]
  simp only [skip, Bool.false_eq_true, if_false, if_neg hhead, Listed.classPrimitive?_source hy]
  rfl

/-- A character that is not the first of two hyphens starts an item of the class. -/
theorem classBody?_source (hx : x.Avoids ['\\']) (hh : x ≠ .bare '-' ∨ cs.head? ≠ some '-') :
    classBody? false (limit + 1) k [] (x.source ++ cs) =
      (classRange? false (x.source ++ cs)).bind fun (item, rest) =>
        classBody? false limit (k.push item) [] rest := by
  have hsign : ∃ c more, x.source ++ cs = c :: more ∧ c ∉ ['[', ']', '&', '~'] ∧
      (c = '-' → more.head? ≠ some '-') := by
    by_cases hhyphen : x = .bare '-'
    · exact ⟨'-', cs, by rw [hhyphen]; rfl, by decide, fun _ => hh.resolve_left (absurd hhyphen)⟩
    · obtain ⟨c, more, hs, hc⟩ := Listed.exists_source hx hhyphen
      refine ⟨c, more ++ cs, by rw [hs]; rfl, ?_, ?_⟩ <;> simp_all
  obtain ⟨c, more, hs, hc, hminus⟩ := hsign
  simp only [List.mem_cons, List.not_mem_nil, or_false, not_or] at hc
  obtain ⟨hopen, hclose, hand, htilde⟩ := hc
  rw [hs, classBody?]
  simp only [skip, Bool.false_eq_true, if_false]
  split
  all_goals try simp_all
  split <;> simp_all

/-- A member without a hyphen behind it is put with the items. -/
theorem classBody?_one (hx : x.Avoids ['\\']) (hcs : cs ≠ []) (hh : cs.head? ≠ some '-') :
    classBody? false (limit + 1) k [] (x.source ++ cs) =
      classBody? false limit (k.push (.char x.literal)) [] cs := by
  rw [classBody?_source hx (.inr hh), classRange?_one hx hcs hh]
  rfl

/-- A member is put with the items if the hyphen behind it starts no range. -/
theorem classBody?_hyphen (hx : x.Avoids ['\\']) (hh : x ≠ .bare '-')
    (hcs : cs.head? = some ']' ∨ cs.head? = some '-') :
    classBody? false (limit + 1) k [] (x.source ++ '-' :: cs) =
      classBody? false limit (k.push (.char x.literal)) [] ('-' :: cs) := by
  rw [classBody?_source hx (.inl hh), classRange?_hyphen hx hcs]
  rfl

/-- A range is put with the items, if it is in order. -/
theorem classBody?_range (hx : x.Avoids ['\\']) (hxh : x ≠ .bare '-') (hy : y.Avoids ['\\'])
    (hyh : y ≠ .bare '-') (cs : List Char) :
    classBody? false (limit + 1) k [] (x.source ++ '-' :: (y.source ++ cs)) =
      if x.char ≤ y.char then classBody? false limit (k.push (.range x.literal y.literal)) [] cs
      else none := by
  rw [classBody?_source hx (.inl hxh), classRange?_range hx hy hyh]
  split <;> rfl

/-! ### All characters -/

/-- The class that is open behind more of its characters. -/
def readOn? (k : OpenClass) : List Listed → Option OpenClass
  | [] => some k
  | .bare '-' :: .bare '-' :: rest => readOn? (k.operate .difference) rest
  | x :: .bare '-' :: .bare '-' :: rest =>
    readOn? ((k.push (.char x.literal)).operate .difference) rest
  | x :: .bare '-' :: y :: rest =>
    if x.char ≤ y.char then readOn? (k.push (.range x.literal y.literal)) rest else none
  | x :: rest => readOn? (k.push (.char x.literal)) rest

/-- A bare hyphen is written as it is. -/
theorem source_hyphen : (Listed.bare '-').source = ['-'] := rfl

/-- In front of a character other than a hyphen no hyphen is seen. -/
theorem head?_source (hx : x.Avoids ['\\']) (hh : x ≠ .bare '-') (cs : List Char) :
    (x.source ++ cs).head? ≠ some '-' := by
  obtain ⟨c, more, hs, hc⟩ := Listed.exists_source hx hh
  rw [hs, List.cons_append, List.head?_cons, ne_eq, Option.some.injEq]
  rintro rfl
  exact hc (by decide)

/-- The characters of a class up to its end. -/
theorem classBody?_sources {xs : List Listed} (hxs : ∀ x ∈ xs, x.Avoids ['\\'])
    (hlimit : xs.length < limit) (rest : List Char) :
    classBody? false limit k [] (xs.flatMap Listed.source ++ ']' :: rest) =
      (readOn? k xs).map fun k => (.bracketed k.negated k.set, rest) := by
  fun_induction readOn? k xs generalizing limit with
  | case1 k =>
    obtain ⟨limit, rfl⟩ := Nat.exists_eq_add_one_of_ne_zero (Nat.ne_zero_of_lt hlimit)
    rfl
  | case2 k more ih =>
    obtain ⟨limit, rfl⟩ := Nat.exists_eq_add_one_of_ne_zero (Nat.ne_zero_of_lt hlimit)
    simp only [List.length_cons] at hlimit
    simp only [List.forall_mem_cons] at hxs
    exact ih hxs.2.2 (by omega)
  | case3 k x more hx ih =>
    simp only [List.length_cons] at hlimit
    simp only [List.forall_mem_cons] at hxs
    obtain ⟨limit, rfl⟩ : ∃ n, limit = n + 2 := ⟨limit - 2, by omega⟩
    simp only [List.flatMap_cons, List.append_assoc, source_hyphen, List.cons_append,
      List.nil_append]
    rw [classBody?_hyphen hxs.1 hx (.inr rfl)]
    exact ih hxs.2.2.2 (by omega)
  | case4 k x y more hx hy hle ih =>
    simp only [List.length_cons] at hlimit
    simp only [List.forall_mem_cons] at hxs
    obtain ⟨limit, rfl⟩ : ∃ n, limit = n + 1 := ⟨limit - 1, by omega⟩
    simp only [List.flatMap_cons, List.append_assoc, source_hyphen, List.cons_append,
      List.nil_append]
    rw [classBody?_range hxs.1 hx hxs.2.2.1 hy, if_pos hle]
    exact ih hxs.2.2.2 (by omega)
  | case5 k x y more hx hy hle =>
    simp only [List.length_cons] at hlimit
    simp only [List.forall_mem_cons] at hxs
    obtain ⟨limit, rfl⟩ : ∃ n, limit = n + 1 := ⟨limit - 1, by omega⟩
    simp only [List.flatMap_cons, List.append_assoc, source_hyphen, List.cons_append,
      List.nil_append]
    rw [classBody?_range hxs.1 hx hxs.2.2.1 hy, if_neg hle]
    rfl
  | case6 k x more h₁ h₂ h₃ ih =>
    simp only [List.length_cons] at hlimit
    simp only [List.forall_mem_cons] at hxs
    obtain ⟨limit, rfl⟩ : ∃ n, limit = n + 1 := ⟨limit - 1, by omega⟩
    have hmore := ih hxs.2 (by omega : more.length < limit)
    rw [List.flatMap_cons, List.append_assoc]
    cases more with
    | nil => exact (classBody?_one hxs.1 (List.cons_ne_nil _ _) (by simp)).trans hmore
    | cons y more =>
      rcases Decidable.em (y = .bare '-') with rfl | hy
      · -- a hyphen that nothing follows is a character of the class
        cases more with
        | cons z more => exact absurd rfl (h₃ z more)
        | nil => exact (classBody?_hyphen hxs.1 (fun hx => h₁ [] hx rfl) (.inl rfl)).trans hmore
      · rw [List.flatMap_cons, List.append_assoc] at hmore ⊢
        have hhead := head?_source (List.forall_mem_cons.1 hxs.2).1 hy
          (more.flatMap Listed.source ++ ']' :: rest)
        exact (classBody?_one hxs.1 (by simp) hhead).trans hmore

/-- A class with nothing read of it yet but hyphens in front, which are characters of it. -/
def opened (negated : Bool) (hyphens : List Listed) : OpenClass :=
  ⟨negated, none, (hyphens.map fun x => .char x.literal).reverse⟩

/-- The tree of the search pattern for a class. -/
def classTree? (negated : Bool) (xs : List Listed) : Option Syntax :=
  (readOn? (opened negated (xs.takeWhile (· = .bare '-'))) (xs.dropWhile (· = .bare '-'))).map
    fun k => .bracketed k.negated k.set

/-- The bare hyphens in front of the members are read as characters. -/
theorem leadingHyphens_sources {xs : List Listed} (hxs : ∀ x ∈ xs, x.Avoids ['\\'])
    (hlimit : xs.length ≤ limit) (rest : List Char) :
    leadingHyphens false limit (xs.flatMap Listed.source ++ ']' :: rest) =
      ((xs.takeWhile (· = .bare '-')).map fun x => .char x.literal,
        (xs.dropWhile (· = .bare '-')).flatMap Listed.source ++ ']' :: rest) := by
  induction xs generalizing limit with
  | nil => cases limit <;> rfl
  | cons x xs ih =>
    simp only [List.forall_mem_cons] at hxs
    rw [List.length_cons] at hlimit
    obtain ⟨limit, rfl⟩ := Nat.exists_eq_add_one_of_ne_zero (Nat.ne_zero_of_lt hlimit)
    rcases Decidable.em (x = .bare '-') with rfl | hx
    · have hmore := ih hxs.2 (Nat.le_of_succ_le_succ hlimit)
      rw [List.flatMap_cons, source_hyphen, List.append_assoc, List.singleton_append,
        leadingHyphens]
      simp only [skip, Bool.false_eq_true, if_false, hmore]
      rfl
    · obtain ⟨c, more, hs, hc⟩ := Listed.exists_source hxs.1 hx
      rw [List.takeWhile_cons_of_neg (by simpa using hx), List.dropWhile_cons_of_neg
        (by simpa using hx), List.flatMap_cons, hs, List.cons_append, List.cons_append,
        leadingHyphens]
      · rfl
      · rintro _ _ _ ⟨⟩
        exact hc (by decide)

/-- Every member is written with a character at least. -/
theorem length_le_sources (xs : List Listed) : xs.length ≤ (xs.flatMap Listed.source).length := by
  induction xs with
  | nil => exact Nat.le_refl 0
  | cons x xs ih =>
    have hx : 1 ≤ x.source.length := by
      cases x <;> simp only [Listed.source, member, quoted] <;> split <;> simp
    rw [List.flatMap_cons, List.length_append, List.length_cons]
    omega

/-- No sign is seen in front of a class whose characters are still to be read. -/
theorem exists_sources {x : Listed} (hx : x.Avoids ['\\']) (cs : List Char) :
    ∃ c more, x.source ++ cs = c :: more ∧ c ≠ '^' ∧ c ≠ ']' := by
  rcases Decidable.em (x = .bare '-') with rfl | hh
  · exact ⟨'-', cs, rfl, by decide, by decide⟩
  · obtain ⟨c, more, hs, hc⟩ := Listed.exists_source hx hh
    refine ⟨c, more ++ cs, by rw [hs]; rfl, ?_, ?_⟩ <;> rintro rfl <;> exact hc (by decide)

/-- A class is opened with the hyphens in front of its members. -/
theorem openClass?_eq {cs rest : List Char} {hyphens : List ClassSet}
    (h : leadingHyphens false cs.length cs = (hyphens, rest)) (hcs : cs.head? ≠ some '^')
    (hrest : rest ≠ []) (hclose : hyphens = [] → rest.head? ≠ some ']') (negated : Bool) :
    openClass? false ((if negated then ['^'] else []) ++ cs) =
      some (⟨negated, none, hyphens.reverse⟩, rest) := by
  rw [openClass?]
  simp only [skip, Bool.false_eq_true, if_false]
  cases negated with
  | true =>
    simp only [if_true, List.singleton_append, h]
    split <;> simp_all
  | false =>
    cases cs with
    | nil => exact absurd (Prod.mk.inj h).2.symm hrest
    | cons c more =>
      have hc : c ≠ '^' := fun hc => hcs (hc ▸ rfl)
      rw [List.length_cons] at h
      simp only [Bool.false_eq_true, if_false, List.nil_append]
      simp only [List.cons.injEq, hc, false_and, imp_self, implies_true, List.length_cons, h]
      split <;> simp_all

/-- A class of members is opened with the hyphens in front of them. -/
theorem openClass?_sources {xs : List Listed} (hxs : ∀ x ∈ xs, x.Avoids ['\\']) (hne : xs ≠ [])
    (negated : Bool) (rest : List Char) :
    openClass? false ((if negated then ['^'] else []) ++
        (xs.flatMap Listed.source ++ ']' :: rest)) =
      some (opened negated (xs.takeWhile (· = .bare '-')),
        (xs.dropWhile (· = .bare '-')).flatMap Listed.source ++ ']' :: rest) := by
  have hlimit : xs.length ≤ (xs.flatMap Listed.source ++ ']' :: rest).length := by
    have := length_le_sources xs
    rw [List.length_append]
    omega
  obtain ⟨x, xs, rfl⟩ := List.exists_cons_of_ne_nil hne
  have hx := hxs x List.mem_cons_self
  have hhead (xs : List Listed) := exists_sources hx (xs.flatMap Listed.source ++ ']' :: rest)
  refine openClass?_eq (leadingHyphens_sources hxs hlimit rest) ?_ (by simp) (fun hnil => ?_)
    negated
  · obtain ⟨c, more, hc, hcaret, -⟩ := hhead xs
    rw [List.flatMap_cons, List.append_assoc, hc]
    simpa using hcaret
  · have hh : x ≠ .bare '-' := by
      rintro rfl
      simp at hnil
    obtain ⟨c, more, hc, -, hclose⟩ := hhead xs
    rw [List.dropWhile_cons_of_neg (by simpa using hh), List.flatMap_cons, List.append_assoc, hc]
    simpa using hclose

/-- **A class is read as its tree**, whatever follows it. -/
theorem bracketed?_sources {xs : List Listed} (hxs : ∀ x ∈ xs, x.Avoids ['\\']) (hne : xs ≠ [])
    (negated : Bool) (rest : List Char) :
    bracketed? false ((if negated then ['^'] else []) ++
        (xs.flatMap Listed.source ++ ']' :: rest)) =
      (classTree? negated xs).map fun p => (p, rest) := by
  have hlimit := length_le_sources (xs.dropWhile (· = .bare '-'))
  rw [bracketed?, openClass?_sources hxs hne]
  dsimp only
  rw [classBody?_sources (fun x hx => hxs x (List.dropWhile_subset _ hx)) ?_,
    classTree?, Option.map_map]
  · rfl
  · rw [List.length_append]
    omega

end Glob
end Pattern
end RecordFilter
