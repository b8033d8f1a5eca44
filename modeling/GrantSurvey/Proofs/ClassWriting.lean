import GrantSurvey.Proofs.PoolWriting

/-!
# Writing class files

A class file as it is written: members with attributes, an attribute as its name and content, and a
method body as the content of a code attribute. The skimming reader is given such a writing, and
what it makes of each part is said without a cursor.
-/

namespace GrantSurvey.ClassFile

open BigEndian Outcome Reader
open ConstantPool.Skim (utf8 className)

/-- An attribute: the number of its name, and its content. -/
structure AttributeText where
  name : UInt16
  content : List UInt8
  short : content.length < 4294967296

structure HandlerText where
  start : UInt16
  stop : UInt16
  entry : UInt16
  caught : UInt16

structure LineText where
  start : UInt16
  line : UInt16

structure CodeText where
  stack : UInt16
  locals : UInt16
  code : List UInt8
  short : code.length < 4294967296
  handlers : Rows HandlerText
  attributes : Rows AttributeText

structure MemberText where
  access : UInt16
  name : UInt16
  descriptor : UInt16
  attributes : Rows AttributeText

/-- A class file. What follows the methods is left open. -/
structure ClassText where
  lead : List UInt8
  leadLong : lead.length = 8
  pool : PoolText
  access : UInt16
  this : UInt16
  parent : UInt16
  interfaces : Rows UInt16
  fields : Rows MemberText
  methods : Rows MemberText
  rest : List UInt8

/-! ## Bytes -/

def AttributeText.bytes (text : AttributeText) : List UInt8 :=
  bytes2 text.name ++ (bytes4 (UInt32.ofNat text.content.length) ++ text.content)

def HandlerText.bytes (row : HandlerText) : List UInt8 :=
  (bytes2 row.start ++ bytes2 row.stop) ++ (bytes2 row.entry ++ bytes2 row.caught)

def LineText.bytes (row : LineText) : List UInt8 :=
  bytes2 row.start ++ bytes2 row.line

def CodeText.bytes (text : CodeText) : List UInt8 :=
  bytes2 text.stack ++ (bytes2 text.locals ++ (bytes4 (UInt32.ofNat text.code.length) ++
    (text.code ++ (text.handlers.bytes HandlerText.bytes ++
      text.attributes.bytes AttributeText.bytes))))

def MemberText.bytes (text : MemberText) : List UInt8 :=
  bytes2 text.access ++ (bytes2 text.name ++ (bytes2 text.descriptor ++
    text.attributes.bytes AttributeText.bytes))

def ClassText.body (text : ClassText) : List UInt8 :=
  text.lead ++ (text.pool.bytes ++ (bytes2 text.access ++ (bytes2 text.this ++
    (bytes2 text.parent ++ (text.interfaces.bytes bytes2 ++
      (text.fields.bytes MemberText.bytes ++ text.methods.bytes MemberText.bytes))))))

def ClassText.bytes (text : ClassText) : List UInt8 :=
  text.body ++ text.rest

/-! ## What skimming makes of the parts -/

def LineText.number (row : LineText) : LineNumber :=
  ⟨row.start.toNat, row.line.toNat⟩

def AttributeText.lines (pool : ConstantPool) (text : AttributeText) :
    Except Fault (List LineNumber) := do
  if (← utf8 pool text.name) == "LineNumberTable" then
    readAll (counted lineNumber) text.content
  else return []

def CodeText.skim (pool : ConstantPool) (text : CodeText) :
    Except Fault (List Instruction × List LineNumber) := do
  let tables ← text.attributes.1.mapM (·.lines pool)
  let instructions ← Bytecode.decode pool.skimSymbols
    (text.handlers.1.map (·.entry.toNat)) text.code
  return (instructions, sortLines tables.flatten)

def AttributeText.body (pool : ConstantPool) (name descriptor : String) (text : AttributeText) :
    Except Fault (Option (List Instruction × List LineNumber)) := do
  if (← utf8 pool text.name) == "Code" then
    some <$> inPlace (.codeOf name descriptor) (readAll (Skim.body pool) text.content)
  else return none

def MemberText.skim (pool : ConstantPool) (text : MemberText) : Except Fault (Option Method) := do
  let name ← inPlace .methodName (utf8 pool text.name)
  let descriptor ← inPlace .methodDescriptor (utf8 pool text.descriptor)
  let bodies ← text.attributes.1.mapM (·.body pool name descriptor)
  return (bodies.filterMap id).getLast?.map fun (instructions, lines) =>
    { name, descriptor, instructions, lines }

def ClassText.skim (pool : ConstantPool) (text : ClassText) : Except Fault ClassFile := do
  let name ← inPlace .className (className pool text.this)
  let methods ← text.methods.1.mapM (·.skim pool)
  return { name, methods := methods.filterMap id }

/-! ## The skimming reader -/

theorem AttributeText.yields (text : AttributeText) :
    Yields Skim.attributeInfo text.bytes (.ok (text.name, text.content)) := by
  refine (yields_u2 text.name).andThen ((yields_u4 _).andThen (yields_take ?_).andReturn)
  rw [UInt32.toNat_ofNat', Nat.mod_eq_of_lt text.short]

theorem HandlerText.yields (row : HandlerText) :
    Yields handler row.bytes (.ok row.entry.toNat) :=
  (yields_skip (length_pair row.start row.stop)).andThen
    ((yields_u2 row.entry).andThen (yields_skip (length_bytes2 row.caught)).andReturn)

theorem LineText.yields (row : LineText) : Yields lineNumber row.bytes (.ok row.number) :=
  (yields_u2 row.start).andThen (yields_u2 row.line).andReturn

theorem AttributeText.yields_lines (pool : ConstantPool) (text : AttributeText) :
    Yields (Skim.bodyLines pool) text.bytes (text.lines pool) := by
  rw [← List.append_nil text.bytes]
  refine text.yields.andThen (Yields.liftThen fun name _ => ?_)
  split
  · exact Yields.lift _
  · exact Yields.pure []

theorem CodeText.yields (pool : ConstantPool) (text : CodeText) :
    Yields (Skim.body pool) text.bytes (text.skim pool) := by
  have code : text.code.length = (UInt32.ofNat text.code.length).toNat := by
    rw [UInt32.toNat_ofNat', Nat.mod_eq_of_lt text.short]
  have handlers := Yields.counted text.handlers fun row _ => row.yields
  rw [mapM_ok] at handlers
  have tables := Yields.counted text.attributes fun row _ => row.yields_lines pool
  refine (yields_skip (length_bytes2 text.stack)).andThen
    ((yields_skip (length_bytes2 text.locals)).andThen
      ((yields_u4 _).andThen ((yields_take code).andThen (handlers.andThen ?_))))
  rw [← List.append_nil (text.attributes.bytes _)]
  exact tables.bind fun lines _ => (Yields.lift _).thenReturn

theorem AttributeText.yields_body (pool : ConstantPool) (name descriptor : String)
    (text : AttributeText) :
    Yields (Skim.methodBody pool name descriptor) text.bytes (text.body pool name descriptor) := by
  rw [← List.append_nil text.bytes]
  refine text.yields.andThen (Yields.liftThen fun name _ => ?_)
  split
  · exact (Yields.lift _).map some
  · exact Yields.pure none

theorem MemberText.yields (pool : ConstantPool) (text : MemberText) :
    Yields (Skim.method pool) text.bytes (text.skim pool) := by
  refine (yields_skip (length_bytes2 text.access)).andThen ((yields_u2 text.name).andThen ?_)
  refine Yields.liftThen fun name _ => (yields_u2 text.descriptor).andThen ?_
  refine Yields.liftThen fun descriptor _ => ?_
  exact (Yields.counted text.attributes fun row _ =>
    row.yields_body pool name descriptor).thenReturn

theorem MemberText.yields_field (text : MemberText) : Yields Skim.field text.bytes (.ok ()) := by
  have head : (bytes2 text.access ++ (bytes2 text.name ++ bytes2 text.descriptor)).length = 6 := rfl
  have attributes := Yields.counted text.attributes fun row _ => row.yields
  rw [mapM_ok] at attributes
  have whole : Yields Skim.field (_ ++ text.attributes.bytes AttributeText.bytes) (.ok ()) :=
    (yields_skip head).andThen (attributes.inPlace .fieldAttributes).andReturn
  simpa only [MemberText.bytes, List.append_assoc] using whole

theorem length_interfaces (interfaces : Rows UInt16) :
    (interfaces.1.flatMap bytes2).length = (UInt16.ofNat interfaces.1.length).toNat * 2 := by
  rw [interfaces.toNat_count, List.length_flatMap]
  simp

/-- Skimming a written class. -/
theorem ClassText.read_bytes (text : ClassText) :
    Skim.read text.bytes = text.skim (text.pool.entries Utf8.textLossy) := by
  have fields := Yields.counted text.fields fun row _ => row.yields_field
  rw [mapM_ok] at fields
  have methods := Yields.counted text.methods fun row _ =>
    row.yields (text.pool.entries Utf8.textLossy)
  refine Yields.readAll_eq ?_ text.rest
  refine (yields_skip text.leadLong).andThen ((text.pool.yields_skim.inPlace _).andThen ?_)
  refine (yields_skip (length_bytes2 text.access)).andThen ((yields_u2 text.this).andThen ?_)
  refine Yields.liftThen fun name _ => (yields_skip (length_bytes2 text.parent)).andThen ?_
  rw [Rows.bytes, List.append_assoc]
  exact (yields_u2 _).andThen ((yields_skip (length_interfaces text.interfaces)).andThen
    (fields.andThen methods.thenReturn))

end GrantSurvey.ClassFile
