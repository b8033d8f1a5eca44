import GrantSurvey.ClassFile.Bytecode
import GrantSurvey.Proofs.Outcome

/-!
# The look-ups of the two readings

The strict and the skimming look-ups in a pool find the same and word their refusals differently.
A method body asks nothing but these look-ups of the pool, so it is decoded alike.
-/

namespace GrantSurvey.ClassFile

open Outcome

namespace ConstantPool

variable (pool : ConstantPool) (index : UInt16)

theorem utf8_alike : Alike (Strict.utf8 pool index) (Skim.utf8 pool index) := by
  unfold Strict.utf8 Strict.entry Skim.utf8
  rcases pool.entry? index with _ | entry
  · exact alike_error _ _
  · cases entry with
    | utf8 text => exact Alike.refl _
    | _ => exact alike_error _ _

theorem className_alike : Alike (Strict.className pool index) (Skim.className pool index) := by
  unfold Strict.className Strict.entry Skim.className
  rcases pool.entry? index with _ | entry
  · exact alike_error _ _
  · cases entry with
    | classRef name => exact utf8_alike pool name
    | _ => exact alike_error _ _

theorem literal_alike : Alike (Strict.literal pool index) (Skim.literal pool index) := by
  unfold Strict.literal Strict.entry Skim.literal
  rcases pool.entry? index with _ | entry
  · exact alike_error _ _
  · cases entry with
    | string text => exact (utf8_alike pool text).bind fun _ _ => Alike.refl _
    | _ => exact Alike.refl _

theorem method_alike : Alike (Strict.method pool index) (Skim.method pool index) := by
  unfold Strict.method Strict.entry Skim.method
  rcases pool.entry? index with _ | entry
  · exact alike_error _ _
  · cases entry with
    | methodRef owner nameAndType =>
        simp only [ok_bind]
        rcases pool.entry? nameAndType with _ | entry
        · exact alike_bind_error _ _ _
        · cases entry with
          | nameAndType name descriptor =>
              refine (alike_inPlace (className_alike pool owner) _ _).bind fun _ _ => ?_
              refine (alike_inPlace (utf8_alike pool name) _ _).bind fun _ _ => ?_
              exact (alike_inPlace (utf8_alike pool descriptor) _ _).bind fun _ _ => Alike.refl _
          | _ => exact alike_bind_error _ _ _
    | _ => exact alike_error _ _

end ConstantPool

namespace Bytecode

variable {first second : Symbols}
  (methods : ∀ index, CoveredBy (first.method index) (second.method index))
  (literals : ∀ index, CoveredBy (first.literal index) (second.literal index))

include methods literals

theorem effect_coveredBy (offset : Nat) (opcode : UInt8) (operands : List UInt8) :
    CoveredBy (effect first offset opcode operands) (effect second offset opcode operands) := by
  unfold effect
  cases callKind? opcode with
  | some kind =>
      refine (CoveredBy.refl _).bind fun index _ => ?_
      exact (coveredBy_inPlace (methods index) _ _).bind fun _ _ => CoveredBy.refl _
  | none =>
      have loads {ρ : Type} (read : Except Fault ρ) (number : ρ → UInt16)
          (load : Option Literal → Effect) :
          CoveredBy (do let operand ← read; return load (← first.literal (number operand)))
            (do let operand ← read; return load (← second.literal (number operand))) :=
        (CoveredBy.refl read).bind fun _ _ => (literals _).bind fun _ _ => CoveredBy.refl _
      exact coveredBy_ite (loads _ _ _) (coveredBy_ite (loads _ _ _)
        (coveredBy_ite (loads _ _ _) (CoveredBy.refl _)))

theorem steps_coveredBy (offset : Nat) (code : List UInt8) :
    CoveredBy (steps first offset code) (steps second offset code) := by
  induction offset, code using steps.induct with
  | case1 offset =>
      rw [steps, steps]
      exact CoveredBy.refl _
  | case2 offset opcode operands ih =>
      rw [steps, steps]
      refine (CoveredBy.refl _).bind fun length _ => coveredBy_ite (CoveredBy.refl _) ?_
      refine (effect_coveredBy methods literals offset opcode operands).bind fun _ _ => ?_
      exact (CoveredBy.refl _).bind fun _ _ => (ih length).bind fun _ _ => CoveredBy.refl _

/-- A body is decoded with the answers that it gets, whoever gives them. -/
theorem decode_coveredBy (handlers : List Nat) (code : List UInt8) :
    CoveredBy (decode first handlers code) (decode second handlers code) :=
  (steps_coveredBy methods literals 0 code).bind fun _ _ => CoveredBy.refl _

end Bytecode

/-- The two readings decode a body alike. -/
theorem ConstantPool.decode_alike (pool : ConstantPool) (handlers : List Nat) (code : List UInt8) :
    Alike (Bytecode.decode pool.strictSymbols handlers code)
      (Bytecode.decode pool.skimSymbols handlers code) := by
  intro instructions
  constructor
  · exact Bytecode.decode_coveredBy (fun index => (method_alike pool index).coveredBy)
      (fun index => (literal_alike pool index).coveredBy) handlers code instructions
  · exact Bytecode.decode_coveredBy (fun index => (method_alike pool index).coveredBy_symm)
      (fun index => (literal_alike pool index).coveredBy_symm) handlers code instructions

end GrantSurvey.ClassFile
