import GrantSurvey.Account
import GrantSurvey.Archive
import GrantSurvey.ArgumentFile
import GrantSurvey.Artifact
import GrantSurvey.Call
import GrantSurvey.ClassFile.BodyTables
import GrantSurvey.ClassFile.Bytecode
import GrantSurvey.ClassFile.ConstantPool
import GrantSurvey.ClassFile.Cursor
import GrantSurvey.ClassFile.Fault
import GrantSurvey.ClassFile.Instruction
import GrantSurvey.ClassFile.Opcode
import GrantSurvey.ClassFile.PoolReader
import GrantSurvey.ClassFile.Read
import GrantSurvey.ClassFile.Skim
import GrantSurvey.ClassFile.Strict
import GrantSurvey.Collector
import GrantSurvey.CommandLine
import GrantSurvey.Descriptor
import GrantSurvey.Diagnostic
import GrantSurvey.FileSystem.Basic
import GrantSurvey.FileSystem.Node
import GrantSurvey.Finding
import GrantSurvey.Json.Parser
import GrantSurvey.Json.Real
import GrantSurvey.Json.Value
import GrantSurvey.Opening
import GrantSurvey.Ordered
import GrantSurvey.Path
import GrantSurvey.Permission
import GrantSurvey.Project
import GrantSurvey.Proofs.ArgumentExtent
import GrantSurvey.Proofs.Ascending
import GrantSurvey.Proofs.AttributeVariation
import GrantSurvey.Proofs.BigEndian
import GrantSurvey.Proofs.BodyDecoding
import GrantSurvey.Proofs.BodyGrammar
import GrantSurvey.Proofs.CallFindings
import GrantSurvey.Proofs.ClassDescription
import GrantSurvey.Proofs.ClassWriting
import GrantSurvey.Proofs.DirectoryListing
import GrantSurvey.Proofs.EncodedText
import GrantSurvey.Proofs.EntryBatches
import GrantSurvey.Proofs.FileTree
import GrantSurvey.Proofs.GrantReading
import GrantSurvey.Proofs.IndependentWalks
import GrantSurvey.Proofs.Inspection
import GrantSurvey.Proofs.InstructionForm
import GrantSurvey.Proofs.InstructionLength
import GrantSurvey.Proofs.InstructionReading
import GrantSurvey.Proofs.JoinedPaths
import GrantSurvey.Proofs.JsonReading
import GrantSurvey.Proofs.JsonText
import GrantSurvey.Proofs.JumpTargets
import GrantSurvey.Proofs.LineAttribution
import GrantSurvey.Proofs.LookupAgreement
import GrantSurvey.Proofs.MeasuredReading
import GrantSurvey.Proofs.MoreHandlers
import GrantSurvey.Proofs.OperandStack
import GrantSurvey.Proofs.Outcome
import GrantSurvey.Proofs.OwnBytes
import GrantSurvey.Proofs.PatternSubstitution
import GrantSurvey.Proofs.PatternTokens
import GrantSurvey.Proofs.PolicyLines
import GrantSurvey.Proofs.PolicyUnion
import GrantSurvey.Proofs.PoolNumbering
import GrantSurvey.Proofs.PoolWriting
import GrantSurvey.Proofs.ReaderLaws
import GrantSurvey.Proofs.ReadersAgree
import GrantSurvey.Proofs.ReferenceGraph
import GrantSurvey.Proofs.ReferenceUnfolding
import GrantSurvey.Proofs.ReportContents
import GrantSurvey.Proofs.RequirementLabels
import GrantSurvey.Proofs.RulebookContents
import GrantSurvey.Proofs.RulebookLayers
import GrantSurvey.Proofs.RulebookReading
import GrantSurvey.Proofs.RulebookShape
import GrantSurvey.Proofs.RunEffects
import GrantSurvey.Proofs.RunSteps
import GrantSurvey.Proofs.SarifLog
import GrantSurvey.Proofs.SoundTree
import GrantSurvey.Proofs.StableOrder
import GrantSurvey.Proofs.TestScope
import GrantSurvey.Proofs.TextParts
import GrantSurvey.Proofs.Truncation
import GrantSurvey.Proofs.Utf8Text
import GrantSurvey.Report.Basic
import GrantSurvey.Report.Findings
import GrantSurvey.Report.Policy
import GrantSurvey.Report.Sarif
import GrantSurvey.Report.Writing
import GrantSurvey.Rulebook.Basic
import GrantSurvey.Rulebook.Builtin
import GrantSurvey.Rulebook.Extension
import GrantSurvey.Rulebook.Loading
import GrantSurvey.Rulebook.Schema
import GrantSurvey.Rulebook.Template
import GrantSurvey.Run
import GrantSurvey.Survey
import GrantSurvey.Tally
import GrantSurvey.Text.Decimal
import GrantSurvey.Text.Hexadecimal
import GrantSurvey.Text.ModifiedUtf8
import GrantSurvey.Text.Quoted
import GrantSurvey.Text.Ranges
import GrantSurvey.Text.Shapeless
import GrantSurvey.Text.Split
import GrantSurvey.Text.Utf8
import GrantSurvey.Url.Address
import GrantSurvey.Url.Basic
import GrantSurvey.Url.Domain
import GrantSurvey.Url.Domain.Admission
import GrantSurvey.Url.Domain.Combining
import GrantSurvey.Url.Domain.Composition
import GrantSurvey.Url.Domain.Direction
import GrantSurvey.Url.Domain.Joining
import GrantSurvey.Url.Domain.Label
import GrantSurvey.Url.Domain.Punycode
import GrantSurvey.Url.Domain.Replacement
import GrantSurvey.Url.Fault
import GrantSurvey.Url.Host
import GrantSurvey.Url.Parser
import GrantSurvey.Url.Path
import GrantSurvey.Url.Percent
import GrantSurvey.Url.Target
import GrantSurvey.Zip.Bytes
import GrantSurvey.Zip.Bzip2
import GrantSurvey.Zip.Checksum
import GrantSurvey.Zip.CodePage
import GrantSurvey.Zip.EndRecord
import GrantSurvey.Zip.ExtraField
import GrantSurvey.Zip.Fault
import GrantSurvey.Zip.Inflate
import GrantSurvey.Zip.Listing
import GrantSurvey.Zip.Lzma
import GrantSurvey.Zip.Member
import GrantSurvey.Zip.Method
import GrantSurvey.Zip.Xz
import GrantSurvey.Zip.Zstandard.Entropy
import GrantSurvey.Zip.Zstandard.Frame
import GrantSurvey.Zip.Zstandard.Literals
import GrantSurvey.Zip.Zstandard.Sequences
