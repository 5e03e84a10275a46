import CollectionSearch.Proofs.Repository.Run

/-!
# Interleaved programs

Two programs that share a service. A call is one step of the service, and between two calls of one
program any calls of the other may come.

* `Program.silent` : a program without its signals.
* `Program.Interleaved` : how two programs may end that share a service.
* `Program.Sequential` : how they end one after the other; `Program.Serial` : in some order.

**Main statements:** `Sequential.interleaved` says that one after the other is an interleaving,
`interleaved_silent_iff` that signals do not count, `interleaved_call_iff_of_settled` that a look-up
whose answer cannot change may be made at once, and `serial_or_serial_of_interleaved` bounds what
two programs can do that look something up and then make one call each.
-/

namespace CollectionSearch.Program

variable {α β σ : Type}

/-! ## Programs without signals -/

/-- A program without its signals. -/
def silent : Program α → Program α
  | done a => done a
  | emit _ next => next.silent
  | call c next => call c fun o => (next o).silent

@[simp] theorem silent_signals : (l : List Signal) → (signals l).silent = done ()
  | [] => rfl
  | _ :: rest => silent_signals rest

@[simp] theorem silent_perform (operation : Operation) (c : Call) :
    (perform operation c).silent = call c done := rfl

/-- Of one program after the other, each loses its signals. -/
theorem silent_bind (k : α → Program β) :
    (p : Program α) → (p >>= k).silent = p.silent >>= fun a => (k a).silent
  | done _ => rfl
  | emit _ next => silent_bind k next
  | call c next => congrArg (call c) (funext fun o => silent_bind k (next o))

@[simp] theorem silent_timed (t : Timed) (p : Program α) : (timed t p).silent = p.silent := by
  rw [timed, silent_bind]
  exact bind_done p.silent

/-- The value does not depend on the signals. -/
@[simp] theorem value_silent (b : Backend σ) :
    (p : Program α) → (s : σ) → p.silent.value b s = p.value b s
  | done _, _ => rfl
  | emit _ next, s => value_silent b next s
  | call _ next, _ => value_silent b (next _) _

/-- The final state does not depend on the signals. -/
@[simp] theorem final_silent (b : Backend σ) :
    (p : Program α) → (s : σ) → p.silent.final b s = p.final b s
  | done _, _ => rfl
  | emit _ next, s => final_silent b next s
  | call _ next, _ => final_silent b (next _) _

/-- The calls of a run do not depend on the signals. -/
@[simp] theorem calls_silent (b : Backend σ) :
    (p : Program α) → (s : σ) → p.silent.calls b s = p.calls b s
  | done _, _ => rfl
  | emit _ next, s => calls_silent b next s
  | call c next, _ => congrArg (c :: ·) (calls_silent b (next _) _)

/-- The calls do not depend on the signals. -/
theorem makesOnly_silent_iff {P : Call → Prop} :
    (p : Program α) → (p.silent.MakesOnly P ↔ p.MakesOnly P)
  | done _ => Iff.rfl
  | emit _ next => makesOnly_silent_iff next
  | call _ next => and_congr_right fun _ => forall_congr' fun o => makesOnly_silent_iff (next o)

/-! ## Interleavings -/

/-- How two programs may end that share a service: the values of both and the final state, for the
state that they begin with. In each step one of them goes on. -/
inductive Interleaved (b : Backend σ) : Program α → Program β → σ → α → β → σ → Prop where
  /-- Both have ended. -/
  | done (x : α) (y : β) (t : σ) : Interleaved b (done x) (done y) t x y t
  /-- The left one signals. -/
  | emitLeft {sig : Signal} {p : Program α} {q : Program β} {s : σ} {x : α} {y : β} {t : σ}
      (h : Interleaved b p q s x y t) : Interleaved b (emit sig p) q s x y t
  /-- The left one calls. -/
  | callLeft {c : Call} {next : c.Outcome → Program α} {q : Program β} {s : σ} {x : α} {y : β}
      {t : σ} (h : Interleaved b (next ((b c).run s).1) q ((b c).run s).2 x y t) :
      Interleaved b (call c next) q s x y t
  /-- The right one signals. -/
  | emitRight {sig : Signal} {p : Program α} {q : Program β} {s : σ} {x : α} {y : β} {t : σ}
      (h : Interleaved b p q s x y t) : Interleaved b p (emit sig q) s x y t
  /-- The right one calls. -/
  | callRight {c : Call} {p : Program α} {next : c.Outcome → Program β} {s : σ} {x : α} {y : β}
      {t : σ} (h : Interleaved b p (next ((b c).run s).1) ((b c).run s).2 x y t) :
      Interleaved b p (call c next) s x y t

/-- How two programs end when the first has ended before the second begins. -/
def Sequential (b : Backend σ) (p : Program α) (q : Program β) (s : σ) (x : α) (y : β) (t : σ) :
    Prop :=
  p.value b s = x ∧ q.value b (p.final b s) = y ∧ q.final b (p.final b s) = t

/-- How two programs end one after the other in some order. -/
def Serial (b : Backend σ) (p : Program α) (q : Program β) (s : σ) (x : α) (y : β) (t : σ) : Prop :=
  Sequential b p q s x y t ∨ Sequential b q p s y x t

variable {b : Backend σ} {p p' : Program α} {q : Program β} {s : σ} {x : α} {y : β} {t : σ}

/-- It does not matter which program is called the left one. -/
theorem Interleaved.swap (h : Interleaved b p q s x y t) : Interleaved b q p s y x t := by
  induction h with
  | done x y t => exact .done y x t
  | emitLeft _ ih => exact .emitRight ih
  | callLeft _ ih => exact .callRight ih
  | emitRight _ ih => exact .emitLeft ih
  | callRight _ ih => exact .callLeft ih

theorem interleaved_swap_iff : Interleaved b p q s x y t ↔ Interleaved b q p s y x t :=
  ⟨.swap, .swap⟩

theorem Serial.swap (h : Serial b p q s x y t) : Serial b q p s y x t := h.symm

/-- When one program has ended the other runs alone. -/
theorem interleaved_done_left_iff {a : α} :
    Interleaved b (.done a) q s x y t ↔ a = x ∧ q.value b s = y ∧ q.final b s = t := by
  constructor
  · intro h
    generalize hp : Program.done a = p at h
    induction h with
    | done x y t => cases hp; exact ⟨rfl, rfl, rfl⟩
    | emitLeft _ _ => cases hp
    | callLeft _ _ => cases hp
    | emitRight _ ih => exact ih hp
    | callRight _ ih => exact ih hp
  · rintro ⟨rfl, rfl, rfl⟩
    induction q generalizing s with
    | done y => exact .done a y s
    | emit sig next ih => exact .emitRight ih
    | call c next ih => exact .callRight (ih _)

/-- One program after the other is an interleaving. -/
theorem Sequential.interleaved (h : Sequential b p q s x y t) : Interleaved b p q s x y t := by
  induction p generalizing s with
  | done a => exact interleaved_done_left_iff.mpr h
  | emit sig next ih => exact .emitLeft (ih h)
  | call c next ih => exact .callLeft (ih _ h)

/-! ## Signals in interleavings -/

theorem interleaved_emit_left_iff {sig : Signal} :
    Interleaved b (emit sig p) q s x y t ↔ Interleaved b p q s x y t := by
  refine ⟨fun h => ?_, .emitLeft⟩
  generalize hp : emit sig p = p' at h
  induction h with
  | done x y t => cases hp
  | emitLeft h _ => cases hp; exact h
  | callLeft _ _ => cases hp
  | emitRight _ ih => exact .emitRight (ih hp)
  | callRight _ ih => exact .callRight (ih hp)

/-- After a call only that counts which interleavings what follows has. -/
theorem Interleaved.call_mono {c : Call} {next next' : c.Outcome → Program α}
    (hnext : ∀ o q s, Interleaved b (next o) q s x y t → Interleaved b (next' o) q s x y t)
    (h : Interleaved b (call c next) q s x y t) : Interleaved b (call c next') q s x y t := by
  generalize hp : call c next = p at h
  induction h with
  | done x y t => cases hp
  | emitLeft _ _ => cases hp
  | callLeft h _ => cases hp; exact .callLeft (hnext _ _ _ h)
  | emitRight _ ih => exact .emitRight (ih hnext hp)
  | callRight _ ih => exact .callRight (ih hnext hp)

theorem interleaved_silent_left_iff :
    (p : Program α) → (q : Program β) → (s : σ) →
      (Interleaved b p.silent q s x y t ↔ Interleaved b p q s x y t)
  | .done _, _, _ => Iff.rfl
  | .emit _ next, q, s =>
    (interleaved_silent_left_iff next q s).trans interleaved_emit_left_iff.symm
  | .call _ next, _, _ =>
    ⟨.call_mono fun o q s => (interleaved_silent_left_iff (next o) q s).mp,
      .call_mono fun o q s => (interleaved_silent_left_iff (next o) q s).mpr⟩

/-- **Signals do not change how two programs may end.** -/
theorem interleaved_silent_iff :
    Interleaved b p.silent q.silent s x y t ↔ Interleaved b p q s x y t := by
  rw [interleaved_silent_left_iff, interleaved_swap_iff, interleaved_silent_left_iff,
    interleaved_swap_iff]

/-! ## Look-ups -/

/-- **A look-up whose answer cannot change may be made at once.** Here `I` holds of all states that
the other program leads to. -/
theorem interleaved_call_iff_of_settled {I : σ → Prop} {c : Call} {next : c.Outcome → Program α}
    {o : c.Outcome} (hsettled : ∀ s, I s → (b c).run s = (o, s)) (hs : I s)
    (hq : q.MakesOnly fun c => ∀ s, I s → I ((b c).run s).2) :
    Interleaved b (call c next) q s x y t ↔ Interleaved b (next o) q s x y t := by
  constructor
  · intro h
    generalize hp : call c next = p at h
    induction h with
    | done x y t => cases hp
    | emitLeft _ _ => cases hp
    | callLeft h _ =>
        cases hp
        rw [hsettled _ hs] at h
        exact h
    | emitRight _ ih => exact .emitRight (ih hs hq hp)
    | callRight _ ih => exact .callRight (ih (hq.1 _ hs) (hq.2 _) hp)
  · intro h
    refine .callLeft ?_
    rw [hsettled _ hs]
    exact h

/-- Whether a program without signals makes one call at most. -/
def IsBrief : Program α → Prop
  | done _ => True
  | emit _ _ => False
  | call _ next => ∀ o, ∃ a, next o = done a

/-- When a program of one call makes it, the other one runs alone from there. -/
theorem sequential_of_isBrief {c : Call} {next : c.Outcome → Program α}
    (hp : (call c next).IsBrief)
    (h : Interleaved b (next ((b c).run s).1) q ((b c).run s).2 x y t) :
    Sequential b (call c next) q s x y t := by
  obtain ⟨a, ha⟩ := hp ((b c).run s).1
  rw [ha, interleaved_done_left_iff] at h
  rw [Sequential, value_call, final_call, ha]
  exact h

/-- Programs of one call come one after the other. -/
theorem serial_of_isBrief (hp : p.IsBrief) (hq : q.IsBrief) (h : Interleaved b p q s x y t) :
    Serial b p q s x y t := by
  cases h with
  | done x y t => exact .inl ⟨rfl, rfl, rfl⟩
  | emitLeft h => exact hp.elim
  | callLeft h => exact .inl (sequential_of_isBrief hp h)
  | emitRight h => exact hq.elim
  | callRight h => exact .inr (sequential_of_isBrief hq h.swap)

section look

variable {c₁ c₂ : Call} {d₁ : c₁.Outcome → Program α} {d₂ : c₂.Outcome → Program β}

/-- A look-up at the beginning leaves what follows in the same state. -/
theorem sequential_call_iff (hc₁ : ((b c₁).run s).2 = s) :
    Sequential b (call c₁ d₁) q s x y t ↔ Sequential b (d₁ ((b c₁).run s).1) q s x y t := by
  rw [Sequential, value_call, final_call, hc₁]
  exact Iff.rfl

/-- A program that looks something up and one that makes one call: what was looked up may be out of
date when it is used. -/
theorem serial_or_sequential_of_interleaved (hc₁ : ∀ s, ((b c₁).run s).2 = s)
    (hd₁ : ∀ o, (d₁ o).IsBrief) (hq : q.IsBrief) (h : Interleaved b (call c₁ d₁) q s x y t) :
    Serial b (call c₁ d₁) q s x y t ∨ Sequential b q (d₁ ((b c₁).run s).1) s y x t := by
  cases h with
  | callLeft h =>
      rw [hc₁] at h
      rcases serial_of_isBrief (hd₁ _) hq h with h | h
      · exact .inl (.inl ((sequential_call_iff (hc₁ s)).mpr h))
      · exact .inr h
  | emitRight h => exact hq.elim
  | callRight h => exact .inl (.inr (sequential_of_isBrief hq h.swap))

/-- **Two programs that look something up and then make one call at most** end as one after the
other, or as if both had looked before either went on. -/
theorem serial_or_serial_of_interleaved (hc₁ : ∀ s, ((b c₁).run s).2 = s)
    (hc₂ : ∀ s, ((b c₂).run s).2 = s) (hd₁ : ∀ o, (d₁ o).IsBrief) (hd₂ : ∀ o, (d₂ o).IsBrief)
    (h : Interleaved b (call c₁ d₁) (call c₂ d₂) s x y t) :
    Serial b (call c₁ d₁) (call c₂ d₂) s x y t ∨
      Serial b (d₁ ((b c₁).run s).1) (d₂ ((b c₂).run s).1) s x y t := by
  cases h with
  | callLeft h =>
      rw [hc₁] at h
      rcases serial_or_sequential_of_interleaved hc₂ hd₂ (hd₁ _) h.swap with (h | h) | h
      · exact .inr (.inr ((sequential_call_iff (hc₂ s)).mp h))
      · exact .inl (.inl ((sequential_call_iff (hc₁ s)).mpr h))
      · exact .inr (.inl h)
  | callRight h =>
      rw [hc₂] at h
      rcases serial_or_sequential_of_interleaved hc₁ hd₁ (hd₂ _) h with (h | h) | h
      · exact .inr (.inl ((sequential_call_iff (hc₁ s)).mp h))
      · exact .inl (.inr ((sequential_call_iff (hc₂ s)).mpr h))
      · exact .inr (.inr h)

/-- Both may look before either goes on. -/
theorem interleaved_of_sequential (hc₁ : ∀ s, ((b c₁).run s).2 = s)
    (hc₂ : ∀ s, ((b c₂).run s).2 = s)
    (h : Sequential b (d₁ ((b c₁).run s).1) (d₂ ((b c₂).run s).1) s x y t) :
    Interleaved b (call c₁ d₁) (call c₂ d₂) s x y t := by
  apply Interleaved.callLeft
  rw [hc₁]
  apply Interleaved.callRight
  rw [hc₂]
  exact h.interleaved

end look

end CollectionSearch.Program
