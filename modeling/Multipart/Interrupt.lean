import Multipart.Copy

/-! Interrupted refills are retried: a body with `Interrupted` failures put in among its refills
copies as the body without them, with the same result, the same bytes written and the same bytes
left to read. -/

namespace Multipart

/-- `fills'` is `fills` with `Interrupted` failures put in before some of its refills or after
the last. -/
inductive Interrupts : List Fill → List Fill → Prop
  | nil : Interrupts [] []
  | interrupt {fills' fills : List Fill} (rest : Interrupts fills' fills) :
    Interrupts (.fail ⟨.interrupted⟩ :: fills') fills
  | keep (fill : Fill) {fills' fills : List Fill} (rest : Interrupts fills' fills) :
    Interrupts (fill :: fills') (fill :: fills)

namespace Interrupts

theorem refl : (fills : List Fill) → Interrupts fills fills
  | [] => .nil
  | fill :: fills => .keep fill (refl fills)

/-- Interrupts put in hold no bytes. -/
theorem rest_eq {fills' fills : List Fill} (related : Interrupts fills' fills) :
    (⟨fills'⟩ : Body).rest = (⟨fills⟩ : Body).rest := by
  induction related with
  | nil => rfl
  | interrupt _ ih => simpa [Body.rest, Fill.bytes] using ih
  | keep fill _ ih => simpa [Body.rest] using ih

/-- Consuming from the same chunk at the head of both keeps them related. -/
theorem consume {head : UInt8} {tail : List UInt8} {fills' fills : List Fill}
    (related : Interrupts fills' fills) (amount : Nat) :
    Interrupts (Body.consume amount ⟨.chunk head tail :: fills'⟩).fills
      (Body.consume amount ⟨.chunk head tail :: fills⟩).fills := by
  simp only [Body.consume]
  split
  · exact related
  · exact .keep _ related

end Interrupts

namespace Body

theorem fillBuf_error_eq {body body' : Body} {error : IoError}
    (filled : body.fillBuf = (.error error, body')) : body = ⟨.fail error :: body'.fills⟩ := by
  rcases body with ⟨_ | ⟨_ | _, fills⟩⟩ <;>
    simp only [fillBuf, Prod.mk.injEq, reduceCtorEq, false_and, Except.error.injEq] at filled
  obtain ⟨rfl, rfl⟩ := filled
  rfl

theorem fillBuf_ok_eq {body body' : Body} {buf : List UInt8} (filled : body.fillBuf = (.ok buf, body')) :
    body' = body ∧ (buf = [] ∧ body = ⟨[]⟩ ∨
      ∃ head tail fills, buf = head :: tail ∧ body = ⟨.chunk head tail :: fills⟩) := by
  rcases body with ⟨_ | ⟨_ | _, fills⟩⟩ <;>
    simp only [fillBuf, Prod.mk.injEq, reduceCtorEq, false_and, Except.ok.injEq] at filled
  all_goals obtain ⟨rfl, rfl⟩ := filled
  · exact ⟨rfl, .inl ⟨rfl, rfl⟩⟩
  · exact ⟨rfl, .inr ⟨_, _, _, rfl, rfl⟩⟩

end Body

namespace tryCopyBuf

variable {total : Nat} {dest : Writer} {fills : List Fill}

theorem go_fail (error : IoError) :
    go total (⟨.fail error :: fills⟩ : Body) dest = if error.kind = .interrupted then go total ⟨fills⟩ dest
      else (failedAfter total error, ⟨fills⟩, dest) :=
  go_fill_error rfl

theorem fillBuf_chunk (head : UInt8) (tail : List UInt8) :
    BufRead.fillBuf (⟨.chunk head tail :: fills⟩ : Body) = (.ok (head :: tail), ⟨.chunk head tail :: fills⟩) :=
  rfl

/-- The copy loop over a body with interrupts put in runs as over the body without them. -/
theorem go_interrupts (total : Nat) (interrupted : Body) (dest : Writer) :
    ∀ fills, Interrupts interrupted.fills fills →
      (go total interrupted dest).1 = (go total (⟨fills⟩ : Body) dest).1 ∧
        (go total interrupted dest).2.2 = (go total (⟨fills⟩ : Body) dest).2.2 ∧
        Interrupts (go total interrupted dest).2.1.fills (go total (⟨fills⟩ : Body) dest).2.1.fills := by
  induction total, interrupted, dest using go.induct with
  | case1 total interrupted dest error interrupted' filled kind ih =>
    intro fills related
    rw [go_fill_error filled, if_pos kind]
    obtain rfl := Body.fillBuf_error_eq filled
    cases related with
    | interrupt rest => exact ih _ rest
    | keep _ rest => rw [go_fail, if_pos kind]; exact ih _ rest
  | case2 total interrupted dest error interrupted' filled kind =>
    intro fills related
    rw [go_fill_error filled, if_neg kind]
    obtain rfl := Body.fillBuf_error_eq filled
    cases related with
    | interrupt => exact absurd rfl kind
    | keep _ rest => rw [go_fail, if_neg kind]; exact ⟨rfl, rfl, rest⟩
  | case3 total interrupted dest interrupted' filled =>
    intro fills related
    obtain ⟨rfl, ⟨-, rfl⟩ | ⟨_, _, _, empty, -⟩⟩ := Body.fillBuf_ok_eq filled
    · cases related
      exact ⟨rfl, rfl, .refl _⟩
    · cases empty
  | case4 total interrupted dest buf interrupted' filled nonempty copied dest' wrote ih =>
    intro fills related
    rw [go_write_full filled nonempty wrote]
    obtain ⟨rfl, ⟨empty, -⟩ | ⟨head, tail, rest, rfl, rfl⟩⟩ := Body.fillBuf_ok_eq filled
    · exact absurd empty nonempty
    cases related with
    | keep _ related =>
      rw [go_write_full (fillBuf_chunk head tail) nonempty wrote]
      exact ih _ (related.consume copied)
  | case5 total interrupted dest buf interrupted' filled nonempty copied reason dest' wrote =>
    intro fills related
    rw [go_write_partly filled nonempty wrote]
    obtain ⟨rfl, ⟨empty, -⟩ | ⟨head, tail, rest, rfl, rfl⟩⟩ := Body.fillBuf_ok_eq filled
    · exact absurd empty nonempty
    cases related with
    | keep _ related =>
      rw [go_write_partly (fillBuf_chunk head tail) nonempty wrote]
      exact ⟨rfl, rfl, related.consume copied⟩
  | case6 total interrupted dest buf interrupted' filled nonempty error dest' wrote =>
    intro fills related
    rw [go_write_error filled nonempty wrote]
    obtain ⟨rfl, ⟨empty, -⟩ | ⟨head, tail, rest, rfl, rfl⟩⟩ := Body.fillBuf_ok_eq filled
    · exact absurd empty nonempty
    cases related with
    | keep _ related =>
      rw [go_write_error (fillBuf_chunk head tail) nonempty wrote]
      exact ⟨rfl, rfl, .keep _ related⟩

end tryCopyBuf

/-- `try_copy_buf` retries interrupted refills: a body with `Interrupted` failures put in among
its refills gives the same result, hands the writer the same bytes, and leaves the same bytes to
read. -/
theorem tryCopyBuf_interrupts {interrupted body : Body} (dest : Writer)
    (related : Interrupts interrupted.fills body.fills) :
    (tryCopyBuf interrupted dest).1 = (tryCopyBuf body dest).1 ∧
      (tryCopyBuf interrupted dest).2.2 = (tryCopyBuf body dest).2.2 ∧
      (tryCopyBuf interrupted dest).2.1.rest = (tryCopyBuf body dest).2.1.rest := by
  obtain ⟨result, written, rest⟩ := tryCopyBuf.go_interrupts 0 interrupted dest body.fills related
  exact ⟨result, written, rest.rest_eq⟩

/-- One interrupt before the only chunk. -/
theorem tryCopyBuf_interrupts_once :
    Interrupts [.fail ⟨.interrupted⟩, .chunk 0x61 []] [.chunk 0x61 []] ∧
      (tryCopyBuf (⟨[.fail ⟨.interrupted⟩, .chunk 0x61 []]⟩ : Body) Writer.vec).1 =
        (tryCopyBuf (⟨[.chunk 0x61 []]⟩ : Body) Writer.vec).1 ∧
      (tryCopyBuf (⟨[.fail ⟨.interrupted⟩, .chunk 0x61 []]⟩ : Body) Writer.vec).2.2 =
        (tryCopyBuf (⟨[.chunk 0x61 []]⟩ : Body) Writer.vec).2.2 ∧
      (tryCopyBuf (⟨[.fail ⟨.interrupted⟩, .chunk 0x61 []]⟩ : Body) Writer.vec).2.1.rest =
        (tryCopyBuf (⟨[.chunk 0x61 []]⟩ : Body) Writer.vec).2.1.rest :=
  ⟨.interrupt (.keep _ .nil), tryCopyBuf_interrupts Writer.vec (.interrupt (.keep _ .nil))⟩

end Multipart
