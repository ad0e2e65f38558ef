import CodeTree.Text.Quoted
import Mathlib.Data.List.Basic

/-!
# Numerals and quoted texts

A separator that is no digit shows where a numeral ends.  Nothing that stands for a
character inside quotes begins with a quote, so a quoted text tells the text.
-/

namespace CodeTree

namespace Text

section Separators

variable {α : Type} {c : α} {xs xs' ys ys' : List α}

theorem append_first_separator_inj (h : c ∉ xs) (h' : c ∉ xs') :
    xs ++ c :: ys = xs' ++ c :: ys' ↔ xs = xs' ∧ ys = ys' := by
  induction xs generalizing xs' with
  | nil =>
      cases xs' with
      | nil => simp
      | cons x' xs' =>
          have hne : c ≠ x' := List.ne_of_not_mem_cons h'
          simp [hne]
  | cons x xs ih =>
      cases xs' with
      | nil =>
          have hne : c ≠ x := List.ne_of_not_mem_cons h
          simp [hne.symm]
      | cons x' xs' =>
          have htail :=
            ih (List.not_mem_of_not_mem_cons h) (List.not_mem_of_not_mem_cons h')
          simp only [List.cons_append, List.cons.injEq, htail, and_assoc]

theorem append_last_separator_inj (h : c ∉ ys) (h' : c ∉ ys') :
    xs ++ c :: ys = xs' ++ c :: ys' ↔ xs = xs' ∧ ys = ys' := by
  have hreverse : ∀ front back : List α,
      (front ++ c :: back).reverse = back.reverse ++ c :: front.reverse := by
    intro front back
    simp
  have hback : c ∉ ys.reverse := mt List.mem_reverse.1 h
  have hback' : c ∉ ys'.reverse := mt List.mem_reverse.1 h'
  rw [← List.reverse_inj, hreverse, hreverse, append_first_separator_inj hback hback',
    List.reverse_inj, List.reverse_inj, and_comm]

end Separators

/-! ## Digits -/

variable {b : Nat}

theorem digitChar_inj {d e : Nat} (hd : d < 16) (he : e < 16) :
    Nat.digitChar d = Nat.digitChar e ↔ d = e := by
  have hall : ∀ d < 16, ∀ e < 16, Nat.digitChar d = Nat.digitChar e → d = e := by decide
  constructor
  · exact hall d hd e he
  · rintro rfl
    rfl

/-- The last digit of a numeral is the remainder.  A number that is one digit has
nothing before it. -/
theorem toDigits_eq_append (hb : 1 < b) (n : Nat) :
    Nat.toDigits b n =
      (if n < b then [] else Nat.toDigits b (n / b)) ++ [Nat.digitChar (n % b)] := by
  rw [Nat.toDigits_eq_if hb]
  by_cases hn : n < b
  · simp [hn, Nat.mod_eq_of_lt hn]
  · simp [hn]

theorem exists_digitChar_of_mem_toDigits (hb : 1 < b) {c : Char} {n : Nat}
    (h : c ∈ Nat.toDigits b n) : ∃ d < b, c = Nat.digitChar d := by
  induction n using Nat.strongRecOn with
  | ind n ih =>
      rw [toDigits_eq_append hb, List.mem_append, List.mem_singleton] at h
      rcases h with hfront | hlast
      · by_cases hn : n < b
        · simp [hn] at hfront
        · rw [if_neg hn] at hfront
          have hsmaller : n / b < n := Nat.div_lt_self (by omega) hb
          exact ih (n / b) hsmaller hfront
      · exact ⟨n % b, Nat.mod_lt n (by omega), hlast⟩

theorem eq_of_toDigits_eq (hb : 1 < b) (hb' : b ≤ 16) {m n : Nat}
    (h : Nat.toDigits b m = Nat.toDigits b n) : m = n := by
  induction m using Nat.strongRecOn generalizing n with
  | ind m ih =>
      rw [toDigits_eq_append hb m, toDigits_eq_append hb n] at h
      obtain ⟨hfront, hlast⟩ := List.append_inj' h rfl
      have hmod : m % b = n % b := by
        have hm : m % b < b := Nat.mod_lt m (by omega)
        have hn : n % b < b := Nat.mod_lt n (by omega)
        exact (digitChar_inj (by omega) (by omega)).1 (List.singleton_inj.1 hlast)
      have hdiv : m / b = n / b := by
        by_cases hm : m < b
        · by_cases hn : n < b
          · rw [Nat.div_eq_of_lt hm, Nat.div_eq_of_lt hn]
          · rw [if_pos hm, if_neg hn] at hfront
            exact absurd hfront.symm Nat.toDigits_ne_nil
        · by_cases hn : n < b
          · rw [if_neg hm, if_pos hn] at hfront
            exact absurd hfront Nat.toDigits_ne_nil
          · rw [if_neg hm, if_neg hn] at hfront
            have hsmaller : m / b < m := Nat.div_lt_self (by omega) hb
            exact ih (m / b) hsmaller hfront
      calc
        m = b * (m / b) + m % b := (Nat.div_add_mod m b).symm
        _ = b * (n / b) + n % b := by rw [hdiv, hmod]
        _ = n := Nat.div_add_mod n b

/-! ## One character -/

/-- The characters that have a letter of their own, with that letter. -/
def letters : List (Char × Char) :=
  [('\x00', '0'), ('\t', 't'), ('\n', 'n'), ('\r', 'r'), ('"', '"'), ('\\', '\\')]

theorem eq_of_letter_eq {c d k : Char} (hc : (c, k) ∈ letters)
    (hd : (d, k) ∈ letters) : c = d := by
  have hall : ∀ p ∈ letters, ∀ q ∈ letters, p.2 = q.2 → p.1 = q.1 := by decide
  exact hall (c, k) hc (d, k) hd rfl

theorem letter_ne_u {c k : Char} (h : (c, k) ∈ letters) : k ≠ 'u' := by
  have hall : ∀ p ∈ letters, p.2 ≠ 'u' := by decide
  exact hall (c, k) h

/-- The ways in which a character can stand inside quotes. -/
inductive Escaped (c : Char) : List Char → Prop where
  | raw (hquote : c ≠ '"') (hbackslash : c ≠ '\\') : Escaped c [c]
  | letter (k : Char) (hk : (c, k) ∈ letters) : Escaped c ['\\', k]
  | code : Escaped c (['\\', 'u', '\x7b'] ++ Nat.toDigits 16 c.toNat ++ ['\x7d'])

theorem escaped_escapeChar (c : Char) : Escaped c (escapeChar c) := by
  unfold escapeChar
  split_ifs with hnull htab hline hreturn hquote hbackslash hhidden
  · exact .letter '0' (by simp [letters, hnull])
  · exact .letter 't' (by simp [letters, htab])
  · exact .letter 'n' (by simp [letters, hline])
  · exact .letter 'r' (by simp [letters, hreturn])
  · exact .letter '"' (by simp [letters, hquote])
  · exact .letter '\\' (by simp [letters, hbackslash])
  · exact .code
  · exact .raw hquote hbackslash

variable {c d : Char} {s t us vs : List Char}

theorem Escaped.exists_head (h : Escaped c s) :
    ∃ first rest, s = first :: rest ∧ first ≠ '"' := by
  cases h with
  | raw hquote hbackslash => exact ⟨c, [], rfl, hquote⟩
  | letter k hk => exact ⟨'\\', [k], rfl, by decide⟩
  | code => exact ⟨'\\', _, rfl, by decide⟩

theorem brace_not_mem_toDigits (n : Nat) : '\x7d' ∉ Nat.toDigits 16 n := by
  intro hmem
  obtain ⟨d, hd, hbrace⟩ := exists_digitChar_of_mem_toDigits (by decide) hmem
  have hall : ∀ d < 16, '\x7d' ≠ Nat.digitChar d := by decide
  exact hall d hd hbrace

theorem Escaped.append_inj (hs : Escaped c s) (ht : Escaped d t) (h : s ++ us = t ++ vs) :
    c = d ∧ us = vs := by
  cases hs with
  | raw hquote hbackslash =>
      cases ht with
      | raw => exact List.cons.inj h
      | letter k hk => exact absurd (List.cons.inj h).1 hbackslash
      | code => exact absurd (List.cons.inj h).1 hbackslash
  | letter k hk =>
      cases ht with
      | raw hquote hbackslash => exact absurd (List.cons.inj h).1.symm hbackslash
      | letter k' hk' =>
          simp only [List.cons_append, List.nil_append, List.cons.injEq, true_and] at h
          obtain ⟨rfl, hrest⟩ := h
          exact ⟨eq_of_letter_eq hk hk', hrest⟩
      | code =>
          simp only [List.cons_append, List.nil_append, List.cons.injEq, true_and] at h
          exact absurd h.1 (letter_ne_u hk)
  | code =>
      cases ht with
      | raw hquote hbackslash => exact absurd (List.cons.inj h).1.symm hbackslash
      | letter k hk =>
          simp only [List.cons_append, List.nil_append, List.cons.injEq, true_and] at h
          exact absurd h.1.symm (letter_ne_u hk)
      | code =>
          simp only [List.cons_append, List.nil_append, List.append_assoc,
            List.cons.injEq, true_and] at h
          obtain ⟨hdigits, hrest⟩ := (append_first_separator_inj
            (brace_not_mem_toDigits c.toNat) (brace_not_mem_toDigits d.toNat)).1 h
          have hnat : c.toNat = d.toNat :=
            eq_of_toDigits_eq (by decide) (by decide) hdigits
          exact ⟨Char.toNat_inj.1 hnat, hrest⟩

/-! ## A whole text -/

theorem escape_cons (c : Char) (cs : List Char) :
    escape (c :: cs) = escapeChar c ++ escape cs :=
  rfl

theorem escape_append_quote_inj {xs ys : List Char}
    (h : escape xs ++ '"' :: us = escape ys ++ '"' :: vs) : xs = ys ∧ us = vs := by
  have hhead : ∀ c cs rest rest', escape (c :: cs) ++ rest ≠ '"' :: rest' := by
    intro c cs rest rest' heq
    obtain ⟨first, others, hc, hfirst⟩ := (escaped_escapeChar c).exists_head
    rw [escape_cons, hc] at heq
    exact hfirst (List.cons.inj heq).1
  induction xs generalizing ys with
  | nil =>
      cases ys with
      | nil => exact ⟨rfl, (List.cons.inj h).2⟩
      | cons y ys => exact absurd h.symm (hhead y ys _ us)
  | cons x xs ih =>
      cases ys with
      | nil => exact absurd h (hhead x xs _ vs)
      | cons y ys =>
          rw [escape_cons, escape_cons, List.append_assoc, List.append_assoc] at h
          obtain ⟨rfl, hrest⟩ :=
            (escaped_escapeChar x).append_inj (escaped_escapeChar y) h
          obtain ⟨rfl, hend⟩ := ih hrest
          exact ⟨rfl, hend⟩

theorem toList_quote (s : String) : (quote s).toList = '"' :: escape s.toList ++ ['"'] :=
  String.toList_ofList

theorem quote_append_inj {s t u v : String} :
    quote s ++ u = quote t ++ v ↔ s = t ∧ u = v := by
  constructor
  · intro h
    have hlist : escape s.toList ++ '"' :: u.toList =
        escape t.toList ++ '"' :: v.toList := by
      have hquoted := congrArg String.toList h
      simpa [toList_quote] using hquoted
    obtain ⟨htext, hrest⟩ := escape_append_quote_inj hlist
    exact ⟨String.toList_inj.1 htext, String.toList_inj.1 hrest⟩
  · rintro ⟨rfl, rfl⟩
    rfl

end Text

end CodeTree
