import GrantSurvey.Proofs.ClassWriting
import GrantSurvey.Proofs.PoolNumbering
import GrantSurvey.Proofs.StableOrder

/-!
# What a class file describes

The class that a written class file describes, said without a reader: the numbers in it stand for
what the pool holds, the content of a code attribute is a written body, the content of a line table
is a written table, and every other attribute has nothing to say. Skimming gives the described
class.
-/

namespace GrantSurvey.ClassFile

open BigEndian Outcome Reader

def AttributeText.IsOther (pool : PoolText) (name : String) (text : AttributeText) : Prop :=
  ∃ other, pool.HoldsText text.name other ∧ other ≠ name

/-- The line entries that an attribute of a body contributes. -/
inductive AttributeText.DescribesLines (pool : PoolText) (text : AttributeText) :
    List LineNumber → Prop where
  | table (rows : Rows LineText) (named : pool.HoldsText text.name "LineNumberTable")
      (content : text.content = rows.bytes LineText.bytes) :
      DescribesLines pool text (rows.1.map LineText.number)
  | other (other : text.IsOther pool "LineNumberTable") : DescribesLines pool text []

/-- The instructions and the lines of a body. The code is decoded with the answers of the pool, and
the entries of all line tables are put into a stable order. -/
structure CodeText.Describes (pool : PoolText) (text : CodeText)
    (instructions : List Instruction) (lines : List LineNumber) : Prop where
  decoded : ∃ symbols, pool.Backs symbols ∧
    Bytecode.decode symbols (text.handlers.1.map (·.entry.toNat)) text.code = .ok instructions
  ordered : ∃ tables,
    List.Forall₂ (AttributeText.DescribesLines pool) text.attributes.1 tables ∧
      StablyOrdered (fun first second => decide (first ≤ second)) LineNumber.start tables.flatten
        lines

inductive AttributeText.DescribesBody (pool : PoolText) (text : AttributeText) :
    Option (List Instruction × List LineNumber) → Prop where
  | code {body : CodeText} {instructions : List Instruction} {lines : List LineNumber}
      (named : pool.HoldsText text.name "Code") (content : text.content = body.bytes)
      (describes : body.Describes pool instructions lines) :
      DescribesBody pool text (some (instructions, lines))
  | other (other : text.IsOther pool "Code") : DescribesBody pool text none

/-- The method that a member stands for, if it has a body. It has one at most. -/
inductive MemberText.Describes (pool : PoolText) (text : MemberText) : Option Method → Prop where
  | mk {name descriptor : String} {bodies : List (Option (List Instruction × List LineNumber))}
      {body : Option (List Instruction × List LineNumber)}
      (named : pool.HoldsText text.name name) (typed : pool.HoldsText text.descriptor descriptor)
      (attributes : List.Forall₂ (AttributeText.DescribesBody pool) text.attributes.1 bodies)
      (single : bodies.filterMap id = body.toList) :
      Describes pool text
        (body.map fun (instructions, lines) => { name, descriptor, instructions, lines })

/-- The class that a class file describes: its name, and its methods with a body in file order. -/
structure ClassText.Describes (text : ClassText) (classFile : ClassFile) : Prop where
  name : text.pool.HoldsClass text.this classFile.name
  methods : ∃ methods, List.Forall₂ (MemberText.Describes text.pool) text.methods.1 methods ∧
    methods.filterMap id = classFile.methods

/-! ## Bodies -/

theorem AttributeText.lines_eq_readAll {pool : ConstantPool} {text : AttributeText}
    (named : ConstantPool.Skim.utf8 pool text.name = .ok "LineNumberTable") :
    text.lines pool = readAll (counted lineNumber) text.content := by
  rw [lines, named]
  rfl

theorem AttributeText.lines_eq_nil {pool : ConstantPool} {text : AttributeText} {name : String}
    (named : ConstantPool.Skim.utf8 pool text.name = .ok name) (other : name ≠ "LineNumberTable") :
    text.lines pool = .ok [] := by
  rw [lines, named, ok_bind, if_neg (by simpa using other)]
  rfl

theorem AttributeText.IsOther.lines_eq {pool : PoolText} {text : AttributeText}
    (other : text.IsOther pool "LineNumberTable") :
    text.lines (pool.entries Utf8.textLossy) = .ok [] := by
  obtain ⟨name, named, different⟩ := other
  exact AttributeText.lines_eq_nil named.utf8_eq different

theorem AttributeText.DescribesLines.lines_eq {pool : PoolText} {text : AttributeText}
    {entries : List LineNumber} (describes : text.DescribesLines pool entries) :
    text.lines (pool.entries Utf8.textLossy) = .ok entries := by
  cases describes with
  | table rows named content =>
      have written := (Yields.counted rows fun row _ => row.yields).readAll_eq []
      rw [List.append_nil, mapM_ok] at written
      rw [AttributeText.lines_eq_readAll named.utf8_eq, content, written]
  | other other => exact other.lines_eq

theorem CodeText.Describes.skim_eq {pool : PoolText} {text : CodeText}
    {instructions : List Instruction} {lines : List LineNumber}
    (describes : text.Describes pool instructions lines) :
    text.skim (pool.entries Utf8.textLossy) = .ok (instructions, lines) := by
  obtain ⟨symbols, backs, decoded⟩ := describes.decoded
  obtain ⟨tables, described, ordered⟩ := describes.ordered
  have contributed : text.attributes.1.mapM (·.lines (pool.entries Utf8.textLossy)) =
      .ok tables :=
    mapM_ok_of_forall₂ (described.imp fun _ _ contributes => contributes.lines_eq)
  have sorted := (stablyOrdered_sortLines tables.flatten).unique isRanking_offset ordered
  rw [CodeText.skim, contributed, ok_bind, backs.decode_coveredBy _ _ _ decoded, ok_bind,
    sorted]
  rfl

/-! ## Methods -/

theorem CodeText.readAll_bytes (pool : ConstantPool) (text : CodeText) :
    readAll (Skim.body pool) text.bytes = text.skim pool := by
  have read := (text.yields pool).readAll_eq []
  rwa [List.append_nil] at read

theorem AttributeText.body_eq_skim {pool : ConstantPool} {text : AttributeText} {code : CodeText}
    (named : ConstantPool.Skim.utf8 pool text.name = .ok "Code")
    (content : text.content = code.bytes) (name descriptor : String) :
    text.body pool name descriptor =
      some <$> inPlace (.codeOf name descriptor) (code.skim pool) := by
  rw [body, named, content, code.readAll_bytes]
  rfl

theorem AttributeText.body_eq_none {pool : ConstantPool} {text : AttributeText} {called : String}
    (named : ConstantPool.Skim.utf8 pool text.name = .ok called) (other : called ≠ "Code")
    (name descriptor : String) : text.body pool name descriptor = .ok none := by
  rw [body, named, ok_bind, if_neg (by simpa using other)]
  rfl

theorem AttributeText.IsOther.body_eq {pool : PoolText} {text : AttributeText}
    (other : text.IsOther pool "Code") (name descriptor : String) :
    text.body (pool.entries Utf8.textLossy) name descriptor = .ok none := by
  obtain ⟨called, named, different⟩ := other
  exact AttributeText.body_eq_none named.utf8_eq different name descriptor

theorem AttributeText.DescribesBody.body_eq {pool : PoolText} {text : AttributeText}
    {body : Option (List Instruction × List LineNumber)} (describes : text.DescribesBody pool body)
    (name descriptor : String) :
    text.body (pool.entries Utf8.textLossy) name descriptor = .ok body := by
  cases describes with
  | code named content describes =>
      rw [AttributeText.body_eq_skim named.utf8_eq content, describes.skim_eq]
      rfl
  | other other => exact other.body_eq name descriptor

theorem MemberText.Describes.skim_eq {pool : PoolText} {text : MemberText} {method : Option Method}
    (describes : text.Describes pool method) :
    text.skim (pool.entries Utf8.textLossy) = .ok method := by
  obtain ⟨named, typed, attributes, single⟩ := describes
  rename_i name descriptor bodies body
  have contributed : text.attributes.1.mapM
      (·.body (pool.entries Utf8.textLossy) name descriptor) = .ok bodies :=
    mapM_ok_of_forall₂ (attributes.imp fun _ _ contributes => contributes.body_eq name descriptor)
  have last : body.toList.getLast? = body := by cases body <;> rfl
  simp only [MemberText.skim, named.utf8_eq, typed.utf8_eq, inPlace, ok_bind, contributed,
    single, last, pure_eq_ok]

/-! ## Classes -/

/-- Skimming a written class file gives the class that it describes. -/
theorem ClassText.Describes.skim_eq {text : ClassText} {classFile : ClassFile}
    (describes : text.Describes classFile) :
    text.skim (text.pool.entries Utf8.textLossy) = .ok classFile := by
  obtain ⟨methods, described, kept⟩ := describes.methods
  have contributed : text.methods.1.mapM (·.skim (text.pool.entries Utf8.textLossy)) =
      .ok methods :=
    mapM_ok_of_forall₂ (described.imp fun _ _ describes => describes.skim_eq)
  simp only [ClassText.skim, describes.name.className_eq, inPlace, ok_bind, contributed,
    kept, pure_eq_ok]

end GrantSurvey.ClassFile
