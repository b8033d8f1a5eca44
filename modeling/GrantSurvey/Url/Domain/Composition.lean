import GrantSurvey.Url.Domain.Combining

/-!
# Letters with marks

A letter with a mark is one character or two, and the same name may be written either way. A text
is composed if its letters and marks are joined wherever a joined character exists and its marks
stand in the order of their places. Korean syllables are joined by counting, all other letters by a
table. The table leaves out capitals, which a domain replaces beforehand.
-/

namespace GrantSurvey.Url.Domain

/-- The letters with one mark: each mark with the letters that take it, each letter followed by the
letter that the two make. -/
def compositions : List (Nat × String) :=
  [(0x300, "aàeèiìnǹoòuùwẁyỳâầêềôồüǜăằēḕōṑơờưừαὰεὲηὴιὶοὸυὺωὼϊῒϋῢеѐиѝἀἂἁἃἐἒἑἓἠἢἡἣἰἲἱἳὀὂὁὃ"),
   (0x300, "ὐὒὑὓὠὢὡὣ"),
   (0x301, "aácćeégǵiíkḱlĺmḿnńoópṕrŕsśuúwẃyýzźâấåǻæǽçḉêếïḯôốõṍøǿüǘăắēḗōṓũṹơớưứαάεέηήιίοό"),
   (0x301, "υύωώϊΐϋΰгѓкќἀἄἁἅἐἔἑἕἠἤἡἥἰἴἱἵὀὄὁὅὐὔὑὕὠὤὡὥ"), (0x302, "aâcĉeêgĝhĥiîjĵoôsŝuûwŵyŷzẑạậẹệọộ"),
   (0x303, "aãeẽiĩnñoõuũvṽyỹâẫêễôỗăẵơỡưữ"), (0x304, "aāeēgḡiīoōuūyȳäǟæǣõȭöȫüǖǫǭȧǡȯȱαᾱιῑυῡиӣуӯḷḹṛṝ"),
   (0x306, "aăeĕgğiĭoŏuŭȩḝαᾰιῐυῠаӑеӗжӂийуўạặ"),
   (0x307, "aȧbḃcċdḋeėfḟgġhḣmṁnṅoȯpṗrṙsṡtṫwẇxẋyẏzżśṥšṧṣṩ𐗒𐗉𐗚𐗤"),
   (0x308, "aäeëhḧiïoötẗuüwẅxẍyÿõṏūṻιϊυϋаӓеёжӝзӟиӥоӧуӱчӵыӹэӭіїәӛөӫ"),
   (0x309, "aảeẻiỉoỏuủyỷâẩêểôổăẳơởưử"), (0x30A, "aåuůwẘyẙ"), (0x30B, "oőuűуӳ"),
   (0x30C, "aǎcčdďeěgǧhȟiǐjǰkǩlľnňoǒrřsštťuǔzžüǚʒǯ"), (0x30F, "aȁeȅiȉoȍrȑuȕѵѷ"),
   (0x311, "aȃeȇiȋoȏrȓuȗ"), (0x313, "αἀεἐηἠιἰοὀρῤυὐωὠ"), (0x314, "αἁεἑηἡιἱοὁρῥυὑωὡ"),
   (0x31B, "oơuư"), (0x323, "aạbḅdḍeẹhḥiịkḳlḷmṃnṇoọrṛsṣtṭuụvṿwẉyỵzẓơợưự"), (0x324, "uṳ"),
   (0x325, "aḁ"), (0x326, "sștț"), (0x327, "cçdḑeȩgģhḩkķlļnņrŗsştţ"), (0x328, "aąeęiįoǫuų"),
   (0x32D, "dḓeḙlḽnṋtṱuṷ"), (0x32E, "hḫ"), (0x330, "eḛiḭuṵ"), (0x331, "bḇdḏhẖkḵlḻnṉrṟtṯzẕ"),
   (0x338, "<≮=≠>≯←↚→↛↔↮⇐⇍⇒⇏⇔⇎∃∄∈∉∋∌∣∤∥∦∼≁≃≄≅≇≈≉≍≭≡≢≤≰≥≱≲≴≳≵≶≸≷≹≺⊀≻⊁≼⋠≽⋡⊂⊄⊃⊅⊆⊈⊇⊉⊑⋢⊒⋣⊢⊬⊨⊭"),
   (0x338, "⊩⊮⊫⊯⊲⋪⊳⋫⊴⋬⊵⋭"), (0x342, "αᾶηῆιῖυῦωῶϊῗϋῧἀἆἁἇἠἦἡἧἰἶἱἷὐὖὑὗὠὦὡὧ"), (0x653, "\u0627\u0622"),
   (0x654, "\u0627\u0623\u0648\u0624\u064a\u0626\u06c1\u06c2\u06d2\u06d3\u06d5\u06c0"),
   (0x655, "\u0627\u0625"), (0x93C, "नऩरऱळऴ"), (0x9BE, "\u09c7\u09cb"), (0x9D7, "\u09c7\u09cc"),
   (0xB3E, "\u0b47\u0b4b"), (0xB56, "\u0b47\u0b48"), (0xB57, "\u0b47\u0b4c"),
   (0xBBE, "\u0bc6\u0bca\u0bc7\u0bcb"), (0xBD7, "ஒஔ\u0bc6\u0bcc"), (0xC56, "\u0c46\u0c48"),
   (0xCC2, "\u0cc6\u0cca"), (0xCD5, "\u0cbf\u0cc0\u0cc6\u0cc7\u0cca\u0ccb"),
   (0xCD6, "\u0cc6\u0cc8"), (0xD3E, "\u0d46\u0d4a\u0d47\u0d4b"), (0xD57, "\u0d46\u0d4c"),
   (0xDCA, "\u0dd9\u0dda\u0ddc\u0ddd"), (0xDCF, "\u0dd9\u0ddc"), (0xDDF, "\u0dd9\u0dde"),
   (0x102E, "ဥဦ"),
   (0x1B35, "ᬅᬆᬇᬈᬉᬊᬋᬌᬍᬎᬑᬒ\u1b3a\u1b3b\u1b3c\u1b3d\u1b3e\u1b40\u1b3f\u1b41\u1b42\u1b43"),
   (0x3099, "うゔかがきぎくぐけげこごさざしじすずせぜそぞただちぢつづてでとどはばひびふぶへべほぼゝゞウヴカガキギクグケゲコゴサザシジスズセゼソゾタダチヂツヅテデトド"),
   (0x3099, "ハバヒビフブヘベホボワヷヰヸヱヹヲヺヽヾ"), (0x309A, "はぱひぴふぷへぺほぽハパヒピフプヘペホポ"), (0x110BA, "𑂙𑂚𑂛𑂜𑂥𑂫"),
   (0x11127, "𑄱𑄮𑄲𑄯"), (0x1133E, "𑍇𑍋"), (0x11357, "𑍇𑍌"), (0x113B8, "𑏅𑎸"), (0x113BB, "𑎄𑎅"),
   (0x113C2, "𑎋𑎎𑏅𑏂"), (0x113C9, "𑎂𑎃𑎐𑎑𑏅𑏉"), (0x114B0, "𑒹𑒼"), (0x114BA, "𑒹𑒻"), (0x114BD, "𑒹𑒾"),
   (0x115AF, "𑖸𑖺𑖹𑖻"), (0x11930, "𑤵𑤸"), (0x1611E, "𖄡𖄞"), (0x1611F, "𖄦𖄡𖄦𖄢𖄧𖄩𖄤"), (0x16120, "𖄨𖄡𖄨"),
   (0x16129, "𖄡𖄩"), (0x16D67, "𖵣𖵪𖵨𖵩𖵪")]

/-- The letters that one row of the table gives, each with the joined letter. -/
def pairsOf : List Char → List (Char × Char)
  | letter :: joined :: rest => (letter, joined) :: pairsOf rest
  | _ => []

/-- All letters with one mark: the letter, the mark, and the joined letter. -/
def joinedLetters : List (Char × Char × Char) :=
  compositions.flatMap fun (mark, letters) =>
    (pairsOf letters.toList).map fun (letter, joined) => (letter, Char.ofNat mark, joined)

/-! ## Korean syllables -/

def firstLead : Nat := 0x1100

def firstVowel : Nat := 0x1161

/-- The code point before the first trailing consonant. -/
def noTrail : Nat := 0x11A7

def firstSyllable : Nat := 0xAC00

/-- The numbers of leading consonants, of vowels, and of trailing consonants with none. -/
def leadCount : Nat := 19

@[inherit_doc leadCount]
def vowelCount : Nat := 21

@[inherit_doc leadCount]
def trailCount : Nat := 28

def syllableCount : Nat := leadCount * vowelCount * trailCount

/-- The two parts of a syllable: what comes before its last sound, and that sound. -/
def syllableParts? (char : Char) : Option (Char × Char) :=
  let code := char.toNat
  if code < firstSyllable || firstSyllable + syllableCount ≤ code then none
  else
    let index := code - firstSyllable
    let trail := index % trailCount
    if trail == 0 then
      some (Char.ofNat (firstLead + index / trailCount / vowelCount),
        Char.ofNat (firstVowel + index / trailCount % vowelCount))
    else some (Char.ofNat (code - trail), Char.ofNat (noTrail + trail))

def syllable? (before after : Char) : Option Char :=
  let head := before.toNat
  let last := after.toNat
  if firstLead ≤ head && head < firstLead + leadCount
      && firstVowel ≤ last && last < firstVowel + vowelCount then
    some (Char.ofNat (firstSyllable
      + ((head - firstLead) * vowelCount + (last - firstVowel)) * trailCount))
  else if firstSyllable ≤ head && head < firstSyllable + syllableCount
      && (head - firstSyllable) % trailCount == 0
      && noTrail < last && last < noTrail + trailCount then
    some (Char.ofNat (head + (last - noTrail)))
  else none

/-! ## Taking apart and joining -/

def parts? (char : Char) : Option (Char × Char) :=
  match syllableParts? char with
  | some parts => some parts
  | none =>
      (joinedLetters.find? fun (_, _, joined) => joined == char).map
        fun (letter, mark, _) => (letter, mark)

def join? (before after : Char) : Option Char :=
  match syllable? before after with
  | some joined => some joined
  | none =>
      (joinedLetters.find? fun (letter, mark, _) => mark == after && letter == before).map
        fun (_, _, joined) => joined

/-- The parts of a character, taken apart `depth` times at most. -/
def takenApart : (depth : Nat) → Char → List Char
  | 0, char => [char]
  | depth + 1, char =>
      match parts? char with
      | some (before, after) => takenApart depth before ++ [after]
      | none => [char]

def markLimit : Nat := 4

/-- Puts a character behind a reversed text; a mark goes before all marks of a later place. -/
def settle (char : Char) : List Char → List Char
  | [] => [char]
  | previous :: rest =>
      if place char != 0 && place char < place previous then previous :: settle char rest
      else char :: previous :: rest

def ordered (text : List Char) : List Char :=
  (text.foldl (fun done char => settle char done) []).reverse

/-- A text that is being composed: what is finished, the letter that marks may still join, and the
marks behind it that did not. Both lists are reversed. -/
structure Composing where
  finished : List Char
  letter : Option Char
  marks : List Char

def Composing.reversed (state : Composing) : List Char :=
  state.marks ++ state.letter.toList ++ state.finished

/-- The character that the letter and the next character make, unless a mark in between is in the
way. -/
def Composing.join? (state : Composing) (char : Char) : Option Char :=
  let isFree :=
    match state.marks with
    | [] => true
    | last :: _ => place last < place char
  if isFree then state.letter.bind (Domain.join? · char) else none

def Composing.add (state : Composing) (char : Char) : Composing :=
  match state.join? char with
  | some joined => ⟨state.finished, some joined, state.marks⟩
  | none =>
      if place char == 0 then ⟨state.reversed, some char, []⟩
      else ⟨state.finished, state.letter, char :: state.marks⟩

def composed (text : List Char) : List Char :=
  let apart := ordered (text.flatMap (takenApart markLimit))
  (apart.foldl Composing.add ⟨[], none, []⟩).reversed.reverse

end GrantSurvey.Url.Domain
