import Multipart.Copy
import Mathlib.Logic.Relation

/-! The copy loops one iteration at a time. For `try_write_all` and `try_copy_buf`, `Step` is an
iteration that goes round again and `Stop` one that returns; every call of a loop is one or the
other, every `Step` shrinks a measure, and so every run ends in a `Stop` with the loop's result.
Along the write loop's steps the bytes written are always the front of the buffer. -/

namespace Multipart

theorem failedAfter_eq_partly {total copied : Nat} {error : IoError} {reason : PartialReason}
    (failed : failedAfter total error = .partly copied reason) :
    0 < total ∧ copied = total ∧ reason = .ioError error := by
  unfold failedAfter at failed
  split at failed
  · cases failed
  · cases failed; exact ⟨by omega, rfl, rfl⟩

theorem failedAfter_eq_error {total : Nat} {error error' : IoError}
    (failed : failedAfter total error = .error error') : total = 0 := by
  unfold failedAfter at failed
  split at failed
  · assumption
  · cases failed

theorem Writer.write_error_writes {buf : List UInt8} {dest dest' : Writer} {error : IoError}
    (wrote : dest.write buf = (.error error, dest')) : dest.writes = .fail error :: dest'.writes := by
  rcases dest with ⟨_ | ⟨_ | _, writes⟩, written⟩ <;>
    simp only [Writer.write, Prod.mk.injEq, Except.error.injEq, reduceCtorEq, false_and] at wrote
  obtain ⟨rfl, rfl⟩ := wrote
  rfl

namespace tryWriteAll

/-- The state of the write loop: the bytes written so far, what is left of the buffer, and the
writer. -/
structure State where
  total : Nat
  buf : List UInt8
  dest : Writer

/-- Proof model of one iteration of the write loop that goes round again: an `Interrupted` write
is retried on the same buffer, and a write of `copied > 0` bytes moves past them. -/
inductive Step : State → State → Prop
  | retry {total : Nat} {buf : List UInt8} {dest dest' : Writer} {error : IoError}
    (nonempty : buf ≠ []) (wrote : dest.write buf = (.error error, dest'))
    (interrupted : error.kind = .interrupted) : Step ⟨total, buf, dest⟩ ⟨total, buf, dest'⟩
  | advance {total copied : Nat} {buf : List UInt8} {dest dest' : Writer}
    (nonempty : buf ≠ []) (wrote : dest.write buf = (.ok copied, dest')) (nonzero : copied ≠ 0) :
    Step ⟨total, buf, dest⟩ ⟨total + copied, buf.drop copied, dest'⟩

/-- Proof model of one iteration of the write loop that returns: the buffer is written out, a
write failed with another kind than `Interrupted`, or a write took no byte. -/
inductive Stop : State → SaveResult Nat Nat × Writer → Prop
  | written {total : Nat} {dest : Writer} : Stop ⟨total, [], dest⟩ (.full total, dest)
  | failed {total : Nat} {buf : List UInt8} {dest dest' : Writer} {error : IoError}
    (nonempty : buf ≠ []) (wrote : dest.write buf = (.error error, dest'))
    (notInterrupted : error.kind ≠ .interrupted) :
    Stop ⟨total, buf, dest⟩ (failedAfter total error, dest')
  | writeZero {total : Nat} {buf : List UInt8} {dest dest' : Writer}
    (nonempty : buf ≠ []) (wrote : dest.write buf = (.ok 0, dest')) :
    Stop ⟨total, buf, dest⟩ (failedAfter total ⟨.writeZero⟩, dest')

theorem go_step {s s' : State} (step : Step s s') : go s.total s.buf s.dest = go s'.total s'.buf s'.dest := by
  cases step with
  | retry nonempty wrote interrupted => rw [go_write_error nonempty wrote, if_pos interrupted]
  | advance nonempty wrote nonzero => rw [go_write_ok nonempty wrote, if_neg nonzero]

theorem go_reaches {s s' : State} (run : Relation.ReflTransGen Step s s') :
    go s.total s.buf s.dest = go s'.total s'.buf s'.dest := by
  induction run with
  | refl => rfl
  | tail _ step ih => exact ih.trans (go_step step)

/-- Every call of the write loop returns at once or goes round again by one `Step`. -/
theorem go_iteration (s : State) :
    Stop s (go s.total s.buf s.dest) ∨ ∃ s', Step s s' ∧ go s.total s.buf s.dest = go s'.total s'.buf s'.dest := by
  obtain ⟨total, buf, dest⟩ := s
  by_cases empty : buf = []
  · subst empty; rw [go_nil_buf]; exact .inl .written
  rcases wrote : dest.write buf with ⟨error | copied, dest'⟩
  · by_cases interrupted : error.kind = .interrupted
    · exact .inr ⟨_, .retry empty wrote interrupted, go_step (.retry empty wrote interrupted)⟩
    · rw [go_write_error empty wrote, if_neg interrupted]; exact .inl (.failed empty wrote interrupted)
  · by_cases zero : copied = 0
    · subst zero; rw [go_write_ok empty wrote, if_pos rfl]; exact .inl (.writeZero empty wrote)
    · exact .inr ⟨_, .advance empty wrote zero, go_step (.advance empty wrote zero)⟩

/-- Each step retries an `Interrupted` write, which was the writer's next answer, on the same
buffer, or shortens the buffer without adding answers. -/
theorem step_cases {s s' : State} (step : Step s s') :
    (s'.buf = s.buf ∧ ∃ error, error.kind = .interrupted ∧ s.dest.writes = .fail error :: s'.dest.writes) ∨
      (s'.buf.length < s.buf.length ∧ s'.dest.writes.length ≤ s.dest.writes.length) := by
  cases step with
  | retry nonempty wrote interrupted => exact .inl ⟨rfl, _, interrupted, Writer.write_error_writes wrote⟩
  | advance nonempty wrote nonzero =>
    have positive := List.length_pos.mpr nonempty
    exact .inr ⟨by simp only [List.length_drop]; omega, (Writer.write_ok wrote).2.2.1⟩

/-- What the write loop has left: the writer's scripted answers and the bytes to write. -/
def pending (s : State) : Nat := s.dest.writes.length + s.buf.length

theorem pending_lt {s s' : State} (step : Step s s') : pending s' < pending s := by
  unfold pending
  rcases step_cases step with ⟨same, _, _, answers⟩ | ⟨shorter, fewer⟩
  · rw [same, answers, List.length_cons]; omega
  · omega

theorem wellFounded_step : WellFounded fun s' s => Step s s' :=
  Subrelation.wf pending_lt (measure pending).wf

/-- Every run of the write loop goes round finitely often and ends in a returning iteration,
whose result is the loop's. -/
theorem go_run (s : State) :
    ∃ last, Relation.ReflTransGen Step s last ∧ Stop last (go s.total s.buf s.dest) := by
  induction s using wellFounded_step.induction with
  | h s ih =>
    rcases go_iteration s with stop | ⟨s', step, same⟩
    · exact ⟨s, .refl, stop⟩
    · obtain ⟨last, run, stop⟩ := ih s' step
      exact ⟨last, .head step run, same ▸ stop⟩

/-- The state at an iteration of the write loop over `buf`: the bytes written so far are the
front of `buf`, the rest of `buf` is still to write, and the writer took exactly the front. -/
def Written (buf : List UInt8) (dest : Writer) (s : State) : Prop :=
  s.total ≤ buf.length ∧ s.buf = buf.drop s.total ∧ s.dest.written = dest.written ++ buf.take s.total

theorem written_step {buf : List UInt8} {dest : Writer} {s s' : State} (step : Step s s')
    (written : Written buf dest s) : Written buf dest s' := by
  cases step with
  | retry nonempty wrote interrupted =>
    obtain ⟨bounded, rest, written⟩ := written
    exact ⟨bounded, rest, (Writer.write_error wrote).1.trans written⟩
  | advance nonempty wrote nonzero =>
    obtain ⟨bounded, rest, written⟩ := written
    dsimp only at bounded rest written
    subst rest
    obtain ⟨within, written', -, -⟩ := Writer.write_ok wrote
    rw [List.length_drop] at within
    refine ⟨by dsimp only; omega, List.drop_drop _ _ _, ?_⟩
    dsimp only
    rw [written', written, List.take_add, List.append_assoc]

theorem written_run {buf : List UInt8} {dest : Writer} {s : State}
    (run : Relation.ReflTransGen Step ⟨0, buf, dest⟩ s) : Written buf dest s := by
  induction run with
  | refl => exact ⟨Nat.zero_le _, rfl, by simp⟩
  | tail _ step ih => exact written_step step ih

end tryWriteAll

/-- What `try_write_all` reports: `Full` with all of `buf` written, `Partial` after some but not
all of it on an I/O error, `Error` with nothing written. -/
theorem tryWriteAll_outcome (buf : List UInt8) (dest : Writer) :
    (∀ n, (tryWriteAll buf dest).1 = .full n →
      n = buf.length ∧ (tryWriteAll buf dest).2.written = dest.written ++ buf) ∧
    (∀ n reason, (tryWriteAll buf dest).1 = .partly n reason → (∃ error, reason = .ioError error) ∧
      0 < n ∧ n < buf.length ∧ (tryWriteAll buf dest).2.written = dest.written ++ buf.take n) ∧
    (∀ error, (tryWriteAll buf dest).1 = .error error → (tryWriteAll buf dest).2.written = dest.written) := by
  obtain ⟨copied, -, written, ⟨full, all⟩ | ⟨error, -, short, failed⟩⟩ := tryWriteAll_spec buf dest <;>
    rw [written]
  · subst all
    refine ⟨fun n same => ?_, fun n reason same => ?_, fun error same => ?_⟩ <;> rw [full] at same <;>
      cases same
    exact ⟨rfl, by rw [List.take_length]⟩
  · refine ⟨fun n same => ?_, fun n reason same => ?_, fun error' same => ?_⟩ <;> rw [failed] at same
    · exact absurd same (failedAfter_ne_full _ _ _)
    · obtain ⟨positive, rfl, rfl⟩ := failedAfter_eq_partly same
      exact ⟨⟨error, rfl⟩, positive, short, rfl⟩
    · rw [failedAfter_eq_error same, List.take_zero, List.append_nil]

/-- `try_write_all` keeps to the slice bounds of its buffer: at every iteration the bytes written
so far are the front of `buf`, and a write takes at most what is left, so the running total never
passes `buf.length`. It reports `Full` with all of `buf` written, `Partial` after some but not all
of it, `Error` with nothing written, and a write of no byte ends it with `WriteZero`. -/
theorem tryWriteAll_contract (buf : List UInt8) (dest : Writer) :
    (∀ s, Relation.ReflTransGen tryWriteAll.Step ⟨0, buf, dest⟩ s →
      s.total ≤ buf.length ∧ s.buf = buf.drop s.total ∧ s.dest.written = dest.written ++ buf.take s.total ∧
        ∀ copied dest', s.dest.write s.buf = (.ok copied, dest') →
          copied ≤ s.buf.length ∧ s.total + copied ≤ buf.length) ∧
    (∀ n, (tryWriteAll buf dest).1 = .full n →
      n = buf.length ∧ (tryWriteAll buf dest).2.written = dest.written ++ buf) ∧
    (∀ n reason, (tryWriteAll buf dest).1 = .partly n reason → (∃ error, reason = .ioError error) ∧
      0 < n ∧ n < buf.length ∧ (tryWriteAll buf dest).2.written = dest.written ++ buf.take n) ∧
    (∀ error, (tryWriteAll buf dest).1 = .error error → (tryWriteAll buf dest).2.written = dest.written) ∧
    ∀ s dest', Relation.ReflTransGen tryWriteAll.Step ⟨0, buf, dest⟩ s → s.buf ≠ [] →
      s.dest.write s.buf = (.ok 0, dest') → tryWriteAll buf dest = (failedAfter s.total ⟨.writeZero⟩, dest') := by
  obtain ⟨full, partly, failed⟩ := tryWriteAll_outcome buf dest
  refine ⟨fun s run => ?_, full, partly, failed, fun s dest' run nonempty wrote => ?_⟩
  · obtain ⟨bounded, rest, written⟩ := tryWriteAll.written_run run
    refine ⟨bounded, rest, written, fun copied dest' wrote => ?_⟩
    have within := (Writer.write_ok wrote).1
    rw [rest, List.length_drop] at within ⊢
    omega
  · rw [tryWriteAll, tryWriteAll.go_reaches run, tryWriteAll.go_write_ok nonempty wrote, if_pos rfl]

namespace tryCopyBuf

variable {σ : Type} [BufRead σ]

/-- The state of the copy loop: the bytes copied so far, the reader, and the writer. -/
structure State (σ : Type) where
  total : Nat
  src : σ
  dest : Writer

/-- Proof model of one iteration of the copy loop that goes round again: an `Interrupted` refill
is retried, and a non-empty chunk written out `Full` is consumed. -/
inductive Step : State σ → State σ → Prop
  | retry {total : Nat} {src src' : σ} {dest : Writer} {error : IoError}
    (filled : BufRead.fillBuf src = (.error error, src')) (interrupted : error.kind = .interrupted) :
    Step ⟨total, src, dest⟩ ⟨total, src', dest⟩
  | advance {total copied : Nat} {src src' : σ} {dest dest' : Writer} {buf : List UInt8}
    (filled : BufRead.fillBuf src = (.ok buf, src')) (nonempty : buf ≠ [])
    (wrote : tryWriteAll buf dest = (.full copied, dest')) :
    Step ⟨total, src, dest⟩ ⟨total + copied, BufRead.consume copied src', dest'⟩

/-- Proof model of one iteration of the copy loop that returns: a refill failed with another kind
than `Interrupted`, the reader is at its end, or a chunk was not written out. -/
inductive Stop : State σ → SaveResult Nat Nat × σ × Writer → Prop
  | failed {total : Nat} {src src' : σ} {dest : Writer} {error : IoError}
    (filled : BufRead.fillBuf src = (.error error, src')) (notInterrupted : error.kind ≠ .interrupted) :
    Stop ⟨total, src, dest⟩ (failedAfter total error, src', dest)
  | ended {total : Nat} {src src' : σ} {dest : Writer} (filled : BufRead.fillBuf src = (.ok [], src')) :
    Stop ⟨total, src, dest⟩ (.full total, src', dest)
  | writtenPartly {total copied : Nat} {src src' : σ} {dest dest' : Writer} {buf : List UInt8}
    {reason : PartialReason} (filled : BufRead.fillBuf src = (.ok buf, src')) (nonempty : buf ≠ [])
    (wrote : tryWriteAll buf dest = (.partly copied reason, dest')) :
    Stop ⟨total, src, dest⟩ (.partly (total + copied) reason, BufRead.consume copied src', dest')
  | writeFailed {total : Nat} {src src' : σ} {dest dest' : Writer} {buf : List UInt8} {error : IoError}
    (filled : BufRead.fillBuf src = (.ok buf, src')) (nonempty : buf ≠ [])
    (wrote : tryWriteAll buf dest = (.error error, dest')) :
    Stop ⟨total, src, dest⟩ (.partly total (.ioError error), src', dest')

theorem go_step {s s' : State σ} (step : Step s s') : go s.total s.src s.dest = go s'.total s'.src s'.dest := by
  cases step with
  | retry filled interrupted => rw [go_fill_error filled, if_pos interrupted]
  | advance filled nonempty wrote => rw [go_write_full filled nonempty wrote]

/-- Every call of the copy loop returns at once or goes round again by one `Step`. -/
theorem go_iteration (s : State σ) :
    Stop s (go s.total s.src s.dest) ∨ ∃ s', Step s s' ∧ go s.total s.src s.dest = go s'.total s'.src s'.dest := by
  obtain ⟨total, src, dest⟩ := s
  rcases filled : BufRead.fillBuf src with ⟨error | buf, src'⟩
  · by_cases interrupted : error.kind = .interrupted
    · exact .inr ⟨_, .retry filled interrupted, go_step (.retry filled interrupted)⟩
    · rw [go_fill_error filled, if_neg interrupted]; exact .inl (.failed filled interrupted)
  by_cases empty : buf = []
  · subst empty; rw [go_fill_end filled]; exact .inl (.ended filled)
  rcases wrote : tryWriteAll buf dest with ⟨copied | ⟨copied, reason⟩ | error, dest'⟩
  · exact .inr ⟨_, .advance filled empty wrote, go_step (.advance filled empty wrote)⟩
  · rw [go_write_partly filled empty wrote]; exact .inl (.writtenPartly filled empty wrote)
  · rw [go_write_error filled empty wrote]; exact .inl (.writeFailed filled empty wrote)

/-- Each step retries a failed refill, one fewer failure pending and the bytes unchanged, or
consumes a whole non-empty chunk, which `try_write_all` reports `Full` only once it wrote all
of it. -/
theorem step_cases {s s' : State σ} (step : Step s s') :
    (BufRead.rest s'.src = BufRead.rest s.src ∧ BufRead.failures s'.src < BufRead.failures s.src) ∨
      ((BufRead.rest s'.src).length < (BufRead.rest s.src).length ∧
        BufRead.failures s'.src ≤ BufRead.failures s.src) := by
  cases step with
  | retry filled interrupted => exact .inl (BufRead.fillBuf_error filled)
  | advance filled nonempty wrote =>
    obtain ⟨rfl, all, within, -, -, dropped, fewer⟩ := consume_full_write filled wrote
    have positive := List.length_pos.mpr nonempty
    exact .inr ⟨by dsimp only; rw [dropped, List.length_drop]; omega, fewer⟩

/-- What the copy loop has left: the bytes to read and the failures to come. -/
def pending (s : State σ) : Nat := (BufRead.rest s.src).length + BufRead.failures s.src

theorem pending_lt {s s' : State σ} (step : Step s s') : pending s' < pending s := by
  unfold pending
  rcases step_cases step with ⟨same, fewer⟩ | ⟨shorter, fewer⟩
  · rw [same]; omega
  · omega

theorem wellFounded_step : WellFounded fun s' s : State σ => Step s s' :=
  Subrelation.wf pending_lt (measure pending).wf

/-- Every run of the copy loop goes round finitely often and ends in a returning iteration,
whose result is the loop's. -/
theorem go_run (s : State σ) :
    ∃ last, Relation.ReflTransGen Step s last ∧ Stop last (go s.total s.src s.dest) := by
  induction s using (@wellFounded_step σ _).induction with
  | h s ih =>
    rcases go_iteration s with stop | ⟨s', step, same⟩
    · exact ⟨s, .refl, stop⟩
    · obtain ⟨last, run, stop⟩ := ih s' step
      exact ⟨last, .head step run, same ▸ stop⟩

end tryCopyBuf

/-- Both copy loops end on every reader with finitely many failures to come and every writer
with finitely many scripted answers: each iteration returns, or retries an `Interrupted` call
with one fewer pending, or strictly shrinks the data left; the copy loop's shrinking rests on
`try_write_all` reporting `Full(n)` for a non-empty chunk only with `n` its whole length. -/
theorem copyLoops_terminate {σ : Type} [BufRead σ] :
    (∀ s s', tryWriteAll.Step s s' →
      (s'.buf = s.buf ∧ ∃ error, error.kind = .interrupted ∧ s.dest.writes = .fail error :: s'.dest.writes) ∨
        (s'.buf.length < s.buf.length ∧ s'.dest.writes.length ≤ s.dest.writes.length)) ∧
    (∀ s s' : tryCopyBuf.State σ, tryCopyBuf.Step s s' →
      (BufRead.rest s'.src = BufRead.rest s.src ∧ BufRead.failures s'.src < BufRead.failures s.src) ∨
        ((BufRead.rest s'.src).length < (BufRead.rest s.src).length ∧
          BufRead.failures s'.src ≤ BufRead.failures s.src)) ∧
    WellFounded (fun s' s => tryWriteAll.Step s s') ∧
    WellFounded (fun s' s : tryCopyBuf.State σ => tryCopyBuf.Step s s') ∧
    (∀ s, ∃ last, Relation.ReflTransGen tryWriteAll.Step s last ∧
      tryWriteAll.Stop last (tryWriteAll.go s.total s.buf s.dest)) ∧
    (∀ s : tryCopyBuf.State σ, ∃ last, Relation.ReflTransGen tryCopyBuf.Step s last ∧
      tryCopyBuf.Stop last (tryCopyBuf.go s.total s.src s.dest)) ∧
    ∀ buf dest copied dest', buf ≠ [] → tryWriteAll buf dest = (.full copied, dest') →
      0 < copied ∧ copied = buf.length :=
  ⟨fun _ _ => tryWriteAll.step_cases, fun _ _ => tryCopyBuf.step_cases, tryWriteAll.wellFounded_step,
    tryCopyBuf.wellFounded_step, tryWriteAll.go_run, tryCopyBuf.go_run,
    fun _ _ _ _ nonempty wrote => ⟨tryWriteAll_full wrote ▸ List.length_pos.mpr nonempty, tryWriteAll_full wrote⟩⟩

end Multipart
