import Mathlib.Data.List.Basic

namespace CodeTree

namespace Effects

/-! ## Recursion through a list -/

theorem eq_map_of_cons {α β : Type} {f : α → β} {g : List α → List β} (hnil : g [] = [])
    (hcons : ∀ a as, g (a :: as) = f a :: g as) (as : List α) : g as = as.map f := by
  induction as with
  | nil => exact hnil
  | cons a as ih => rw [hcons, ih, List.map_cons]

section Lawful

variable {m : Type → Type} [Monad m] [LawfulMonad m] {α β : Type}

theorem eq_mapM_of_cons {f : α → m β} {g : List α → m (List β)} (hnil : g [] = pure [])
    (hcons : ∀ a as, g (a :: as) = do
      let b ← f a
      let bs ← g as
      return b :: bs)
    (as : List α) : g as = as.mapM f := by
  induction as with
  | nil => rw [hnil, List.mapM_nil]
  | cons a as ih => rw [hcons, ih, List.mapM_cons]

theorem mapM_eq_pure_map {F : α → m β} {f : α → β} {as : List α}
    (h : ∀ a ∈ as, F a = pure (f a)) : as.mapM F = pure (as.map f) := by
  induction as with
  | nil => exact List.mapM_nil
  | cons a as ih =>
      have htail : as.mapM F = pure (as.map f) :=
        ih fun b hb => h b (List.mem_cons_of_mem a hb)
      rw [List.mapM_cons, h a List.mem_cons_self, htail]
      simp

@[simp] theorem mapM_pure_self (as : List α) : as.mapM (pure : α → m α) = pure as := by
  have hid : as.mapM (pure : α → m α) = pure (as.map id) :=
    mapM_eq_pure_map fun _ _ => rfl
  rw [hid, List.map_id]

theorem optionMapM_eq_pure_map {F : α → m β} {f : α → β} {o : Option α}
    (h : ∀ a ∈ o, F a = pure (f a)) : o.mapM F = pure (o.map f) := by
  cases o with
  | none => simp
  | some a => simp [h a rfl]

variable {γ δ : Type}

theorem map_mapM {F : α → m β} {G : α → m γ} {f : β → γ} (h : ∀ a, f <$> F a = G a)
    (as : List α) : List.map f <$> as.mapM F = as.mapM G := by
  induction as with
  | nil => simp
  | cons a as ih =>
      rw [List.mapM_cons, List.mapM_cons, ← h, ← ih]
      simp

theorem flatMap_mapM {F : α → m β} {G : γ → m δ} {f : α → List γ} {g : β → List δ}
    (h : ∀ a, g <$> F a = (f a).mapM G) (as : List α) :
    List.flatMap g <$> as.mapM F = (as.flatMap f).mapM G := by
  induction as with
  | nil => simp
  | cons a as ih =>
      rw [List.flatMap_cons, List.mapM_cons, List.mapM_append, ← h, ← ih]
      simp

theorem toList_optionMapM (F : α → m β) (o : Option α) :
    Option.toList <$> o.mapM F = o.toList.mapM F := by
  cases o <;> simp

theorem mapM_keeping (F : α → m β) (as : List α) :
    as.mapM (fun a => (fun _ => a) <$> F a) =
      (fun _ => as) <$> forM as fun a => (fun _ => ()) <$> F a := by
  induction as with
  | nil => simp
  | cons a as ih =>
      rw [List.mapM_cons, ih, List.forM_cons]
      simp

omit [LawfulMonad m] in
theorem eq_forM_of_cons {f : α → m Unit} {g : List α → m Unit} (hnil : g [] = pure ())
    (hcons : ∀ a as, g (a :: as) = do
      f a
      g as)
    (as : List α) : g as = forM as f := by
  induction as with
  | nil => rw [hnil, List.forM_nil]
  | cons a as ih => rw [hcons, ih, List.forM_cons]

theorem forM_flatMap (f : α → List β) (F : β → m Unit) (as : List α) :
    forM (as.flatMap f) F = forM as fun a => forM (f a) F := by
  induction as with
  | nil => simp
  | cons a as ih => rw [List.flatMap_cons, List.forM_append, ih, List.forM_cons]

omit [LawfulMonad m] in
theorem forM_congr_of_mem {F G : α → m Unit} {as : List α} (h : ∀ a ∈ as, F a = G a) :
    forM as F = forM as G := by
  induction as with
  | nil => rfl
  | cons a as ih =>
      have htail : forM as F = forM as G := ih fun b hb => h b (List.mem_cons_of_mem a hb)
      rw [List.forM_cons, List.forM_cons, h a List.mem_cons_self, htail]

end Lawful

/-! ## Lists that look alike -/

section Lists

variable {α β γ : Type} {f : α → β} {g : α → γ} {as bs : List α}

theorem map_eq_map_of_map_eq_map (h : ∀ a ∈ as, ∀ b, f a = f b → g a = g b)
    (hmap : as.map f = bs.map f) : as.map g = bs.map g := by
  induction as generalizing bs with
  | nil =>
      have hnil : bs = [] := by simpa using hmap
      rw [hnil]
  | cons a as ih =>
      obtain ⟨b, bs, rfl, hhead, htail⟩ := List.map_eq_cons_iff.1 hmap.symm
      have hrest : as.map g = bs.map g :=
        ih (fun c hc => h c (List.mem_cons_of_mem a hc)) htail.symm
      rw [List.map_cons, List.map_cons, h a List.mem_cons_self b hhead.symm, hrest]

theorem optionMap_eq_of_optionMap_eq {o o' : Option α} (h : ∀ a b, f a = f b → g a = g b)
    (hmap : o.map f = o'.map f) : o.map g = o'.map g := by
  cases o with
  | none => cases o' <;> simp_all
  | some a =>
      cases o' with
      | none => cases hmap
      | some b => exact congrArg some (h a b (Option.some.inj hmap))

theorem eq_of_map_eq_of_map_eq (hinj : ∀ a b, f a = f b → g a = g b → a = b)
    (hf : as.map f = bs.map f) (hg : as.map g = bs.map g) : as = bs := by
  have hpair : as.map (fun a => (f a, g a)) = bs.map fun a => (f a, g a) := by
    rw [← List.zip_map', ← List.zip_map', hf, hg]
  refine List.map_injective_iff.2 ?_ hpair
  intro a b hab
  obtain ⟨hf, hg⟩ := Prod.mk.inj hab
  exact hinj a b hf hg

/-- Where `f` says how many elements `g` gives, and the two together determine their
argument, a list can be read off the elements it gives. -/
theorem eq_of_flatMap_append_eq {g : α → List γ} {rest rest' : List γ}
    (hlength : ∀ a b, f a = f b → (g a).length = (g b).length)
    (hinj : ∀ a b, f a = f b → g a = g b → a = b) (hf : as.map f = bs.map f)
    (h : as.flatMap g ++ rest = bs.flatMap g ++ rest') : as = bs ∧ rest = rest' := by
  induction as generalizing bs with
  | nil =>
      have hnil : bs = [] := by simpa using hf
      subst hnil
      exact ⟨rfl, h⟩
  | cons a as ih =>
      obtain ⟨b, bs, rfl, hhead, htail⟩ := List.map_eq_cons_iff.1 hf.symm
      rw [List.flatMap_cons, List.flatMap_cons, List.append_assoc, List.append_assoc] at h
      obtain ⟨hfirst, hothers⟩ := List.append_inj h (hlength a b hhead.symm)
      obtain ⟨htails, hrest⟩ := ih htail.symm hothers
      exact ⟨by rw [hinj a b hhead.symm hfirst, htails], hrest⟩

theorem eq_of_flatMap_eq {g : α → List γ}
    (hlength : ∀ a b, f a = f b → (g a).length = (g b).length)
    (hinj : ∀ a b, f a = f b → g a = g b → a = b) (hf : as.map f = bs.map f)
    (h : as.flatMap g = bs.flatMap g) : as = bs := by
  have happend : as.flatMap g ++ [] = bs.flatMap g ++ [] := by rw [h]
  exact (eq_of_flatMap_append_eq hlength hinj hf happend).1

@[simp] theorem toList_inj {o o' : Option α} : o.toList = o'.toList ↔ o = o' := by
  cases o <;> cases o' <;> simp

theorem length_toList_eq_of_map_eq {o o' : Option α} (h : o.map f = o'.map f) :
    o.toList.length = o'.toList.length := by
  cases o <;> cases o' <;> simp_all

end Lists

/-! ## Results and states -/

section Stateful

variable {σ α β γ : Type}

def result (x : StateM σ α) (s : σ) : α :=
  (x.run s).1

def after (x : StateM σ α) (s : σ) : σ :=
  (x.run s).2

@[simp] theorem result_pure (a : α) (s : σ) : result (pure a) s = a := rfl

@[simp] theorem result_bind (x : StateM σ α) (k : α → StateM σ β) (s : σ) :
    result (x >>= k) s = result (k (result x s)) (after x s) := rfl

@[simp] theorem result_map (x : StateM σ α) (f : α → β) (s : σ) :
    result (f <$> x) s = f (result x s) := rfl

@[simp] theorem after_pure (a : α) (s : σ) : after (pure a) s = s := rfl

@[simp] theorem after_bind (x : StateM σ α) (k : α → StateM σ β) (s : σ) :
    after (x >>= k) s = after (k (result x s)) (after x s) := rfl

@[simp] theorem after_map (x : StateM σ α) (f : α → β) (s : σ) :
    after (f <$> x) s = after x s := rfl

theorem eq_of_result_of_after {x y : StateM σ α} (hresult : ∀ s, result x s = result y s)
    (hafter : ∀ s, after x s = after y s) : x = y :=
  funext fun s => Prod.ext (hresult s) (hafter s)

theorem map_result_mapM {F : α → StateM σ β} {f : β → γ} {g : α → γ} {as : List α}
    (h : ∀ a ∈ as, ∀ s, f (result (F a) s) = g a) (s : σ) :
    (result (as.mapM F) s).map f = as.map g := by
  induction as generalizing s with
  | nil => rfl
  | cons a as ih =>
      have hhead : f (result (F a) s) = g a := h a List.mem_cons_self s
      have htail : ∀ s, (result (as.mapM F) s).map f = as.map g :=
        ih fun b hb => h b (List.mem_cons_of_mem a hb)
      simp [hhead, htail]

theorem map_result_optionMapM {F : α → StateM σ β} {f : β → γ} {g : α → γ} {o : Option α}
    (h : ∀ a ∈ o, ∀ s, f (result (F a) s) = g a) (s : σ) :
    (result (o.mapM F) s).map f = o.map g := by
  cases o with
  | none => rfl
  | some a => simp [h a rfl]

theorem after_mapM {F : α → StateM σ β} {G : α → StateM σ Unit} {as : List α}
    (h : ∀ a ∈ as, ∀ s, after (F a) s = after (G a) s) (s : σ) :
    after (as.mapM F) s = after (forM as G) s := by
  induction as generalizing s with
  | nil => rfl
  | cons a as ih =>
      have hhead : after (F a) s = after (G a) s := h a List.mem_cons_self s
      have htail : ∀ s, after (as.mapM F) s = after (forM as G) s :=
        ih fun b hb => h b (List.mem_cons_of_mem a hb)
      simp [hhead, htail]

theorem log_after_forM {F : α → StateM (σ × List β) Unit} {f : α → List β}
    (h : ∀ a s log, (after (F a) (s, log)).2 = log ++ f a) (as : List α) (s : σ)
    (log : List β) : (after (forM as F) (s, log)).2 = log ++ as.flatMap f := by
  induction as generalizing s log with
  | nil => simp
  | cons a as ih =>
      have hhead : after (F a) (s, log) = ((after (F a) (s, log)).1, log ++ f a) :=
        Prod.ext rfl (h a s log)
      rw [List.forM_cons, after_bind, hhead, ih, List.flatMap_cons, List.append_assoc]

end Stateful

end Effects
end CodeTree
