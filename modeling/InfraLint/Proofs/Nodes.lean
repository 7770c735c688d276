import InfraLint.Proofs.SourceOrder

/-!
# Where nodes are written

A finding is about a node of a file: the key of an attribute, an element of an array literal, or a
block.  A node is read at a place of the text (`Node.IsReadAt`): there the grammar reads it,
neither a blank nor a comment stands in front of its text, and its line is the line of that place.

Every node of a file that has been read, however deep, is read at a place of the file's text
(`ConfigFile.exists_place_of_parse?`).  The readers take a body apart into entries and an attribute
into elements, and each part keeps the place where its reader started.
-/

namespace InfraLint

/-! ## Texts without margins -/

namespace Text

/-- Whether a blank or a comment can start with a character. -/
def isMargin (c : Char) : Bool := isBlank c || c == '#' || c == '/'

/-- The code points of the blanks outside ASCII. -/
def wideBlanks : List Nat :=
  [0x85, 0xA0, 0x1680, 0x2000, 0x2001, 0x2002, 0x2003, 0x2004, 0x2005, 0x2006, 0x2007, 0x2008,
    0x2009, 0x200A, 0x2028, 0x2029, 0x202F, 0x205F, 0x3000]

theorem le_of_mem_wideBlanks : ∀ n ∈ wideBlanks, 0x80 ≤ n := by decide

theorem inRanges_eq_any (ranges : Array (Nat × Nat)) (n : Nat) :
    inRanges ranges n = ranges.toList.any fun range => range.1 ≤ n && n ≤ range.2 := by
  rw [inRanges, Array.any_toList]

theorem inRanges_of_mem_wideBlanks : ∀ n ∈ wideBlanks, inRanges idStartRanges n = false := by
  -- the table is searched as a list, since arrays are slow to evaluate in a proof
  simp only [inRanges_eq_any]
  decide +kernel

/-- The margins of ASCII stand below the digits. -/
theorem isMargin_eq_false {c : Char} (above : '0'.toNat ≤ c.toNat) (solid : c.toNat ∉ wideBlanks) :
    isMargin c = false := by
  rw [← Bool.not_eq_true]
  intro margin
  simp only [isMargin, isBlank, Bool.or_eq_true, Bool.and_eq_true, decide_eq_true_eq, beq_iff_eq,
    ← Char.toNat_inj] at margin
  simp only [wideBlanks, List.mem_cons, List.not_mem_nil, or_false] at solid
  have zero : '0'.toNat = 48 := rfl
  have hash : '#'.toNat = 35 := rfl
  have slash : '/'.toNat = 47 := rfl
  omega

theorem isMargin_of_narrow {c : Char} (above : '0'.toNat ≤ c.toNat) (narrow : c.toNat < 0x80) :
    isMargin c = false := by
  refine isMargin_eq_false above fun member => ?_
  have wide := le_of_mem_wideBlanks _ member
  omega

theorem isMargin_of_isDigit {c : Char} (digit : c.isDigit = true) : isMargin c = false := by
  unfold Char.isDigit at digit
  simp only [Bool.and_eq_true, decide_eq_true_eq, ge_iff_le, UInt32.le_iff_toNat_le] at digit
  obtain ⟨above, below⟩ := digit
  exact isMargin_of_narrow above (below.trans_lt (by decide))

theorem isMargin_of_isIdStart {c : Char} (starts : isIdStart c = true) : isMargin c = false := by
  unfold isIdStart at starts
  split at starts
  · next narrow =>
    refine isMargin_of_narrow ?_ narrow
    unfold Char.isAlpha Char.isUpper Char.isLower at starts
    simp only [Bool.or_eq_true, Bool.and_eq_true, decide_eq_true_eq, beq_iff_eq, ge_iff_le,
      UInt32.le_iff_toNat_le] at starts
    rcases starts with (⟨above, -⟩ | ⟨above, -⟩) | rfl
    · exact le_trans (by decide) above
    · exact le_trans (by decide) above
    · decide
  · next wide =>
    refine isMargin_eq_false (le_trans (by decide) (Nat.le_of_not_lt wide)) fun member => ?_
    rw [inRanges_of_mem_wideBlanks _ member] at starts
    cases starts

theorem trimRight_prefix (cs : List Char) : trimRight cs <+: cs := by
  rw [trimRight, ← List.reverse_suffix, List.reverse_reverse]
  exact List.dropWhile_suffix isBlank

theorem isBlank_of_isMargin {c : Char} (sound : isMargin c = false) : isBlank c = false := by
  simp only [isMargin, Bool.or_eq_false_iff] at sound
  exact sound.1.1

/-- What is left of a text that no blank stands in front of is its front. -/
theorem trimBlank_prefix {c : Char} {rest : List Char} (solid : isMargin c = false) :
    trimBlank (c :: rest) <+: c :: rest := by
  rw [trimBlank, List.dropWhile_cons_of_neg (by simp [isBlank_of_isMargin solid])]
  exact trimRight_prefix _

end Text

namespace Cursor

theorem takeBytes_prefix (bytes : Nat) (cs : List Char) : takeBytes bytes cs <+: cs := by
  induction cs generalizing bytes with
  | nil => simp [takeBytes]
  | cons c rest ih =>
      cases bytes with
      | zero => exact List.nil_prefix
      | succ bytes => exact List.cons_prefix_cons.2 ⟨rfl, ih _⟩

/-- Neither a blank nor a comment stands at a place. -/
def IsSolid (place : Cursor) : Prop :=
  ∃ c rest, place.rest = c :: rest ∧ Text.isMargin c = false

/-- The text between two places, without the blanks around it, begins at the first one if this is
solid. -/
theorem IsSolid.between_prefix {first : Cursor} (solid : first.IsSolid) (last : Cursor) :
    Text.trimBlank (first.between last) <+: first.rest := by
  obtain ⟨c, rest, ahead, sound⟩ := solid
  have front := takeBytes_prefix (last.offset - first.offset) first.rest
  rw [between]
  cases taken : takeBytes (last.offset - first.offset) first.rest with
  | nil => exact List.nil_prefix
  | cons x others =>
      rw [taken, ahead, List.cons_prefix_cons] at front
      obtain ⟨rfl, front⟩ := front
      rw [ahead]
      exact (Text.trimBlank_prefix sound).trans (List.cons_prefix_cons.2 ⟨rfl, front⟩)

theorem isSolid_of_head? {place : Cursor} {c : Char} (ahead : place.rest.head? = some c)
    (sound : Text.isMargin c = false) : place.IsSolid := by
  obtain ⟨rest, text⟩ := List.head?_eq_some_iff.1 ahead
  exact ⟨c, rest, text, sound⟩

end Cursor

/-! ## What is read starts at a solid place -/

namespace Reader

variable {c d : Cursor} {nested : Nested} {flags : Flags}

theorem satisfy_eq_some {p : Char → Bool} {x : Char} (ran : satisfy p c = some (x, d)) :
    c.rest = x :: d.rest ∧ p x = true := by
  unfold satisfy at ran
  split at ran
  · next y ys text =>
      split at ran
      · next given =>
          cases ran
          exact ⟨text, given⟩
      · cases ran
  · cases ran

theorem exactly_eq_some {text : String} (ran : exactly text c = some ((), d)) :
    c.rest = text.toList ++ d.rest := by
  unfold exactly at ran
  split at ran
  · next rest found =>
      cases ran
      exact Text.eq_append_of_afterLead? found
  · cases ran

theorem exists_exactly_of_foldr {ops : List (String × BinaryOp)} {op : BinaryOp}
    (ran : (ops.foldr (fun (text, op) other => (exactly text *> pure op) <|> other) failure :
      Reader BinaryOp) c = some (op, d)) :
    ∃ text, (text, op) ∈ ops ∧ exactly text c = some ((), d) := by
  induction ops with
  | nil => cases ran
  | cons first ops ih =>
      rcases orElse_eq_some ran with ran | ran
      · rw [seqRight_eq_bind] at ran
        obtain ⟨_, m, read, ⟨⟩⟩ := bind_eq_some_iff.1 ran
        exact ⟨first.1, List.mem_cons_self, read⟩
      · obtain ⟨text, member, read⟩ := ih ran
        exact ⟨text, List.mem_cons_of_mem _ member, read⟩

/-- A binary operator is one of those listed, where no comment opens. -/
theorem binaryOp_eq_some {op : BinaryOp} (ran : binaryOp c = some (op, d)) :
    Text.afterLead? "//".toList c.rest = none ∧ Text.afterLead? "/*".toList c.rest = none ∧
      ∃ text, (text, op) ∈ binaryOps ∧ exactly text c = some ((), d) := by
  obtain ⟨line, _, ⟨⟩, ran⟩ := bind_eq_some_iff.1 ran
  obtain ⟨block, _, ⟨⟩, ran⟩ := bind_eq_some_iff.1 ran
  split at ran
  · cases ran
  · next free =>
    simp only [Bool.or_eq_true, Option.isSome_iff_ne_none, not_or, not_not] at free
    exact ⟨free.1, free.2, exists_exactly_of_foldr ran⟩

theorem isSolid_of_exactly {text : String} (ran : exactly text c = some ((), d)) {x : Char}
    (lead : text.toList.head? = some x) (sound : Text.isMargin x = false) : c.IsSolid := by
  refine Cursor.isSolid_of_head? ?_ sound
  rw [exactly_eq_some ran, List.head?_append, lead, Option.some_or]

/-- An identifier starts at a solid place, and it is what stands there. -/
theorem begins_of_identifier {name : String} (ran : identifier c = some (name, d)) :
    c.IsSolid ∧ name.toList <+: c.rest := by
  obtain ⟨first, m, letter, ran⟩ := bind_eq_some_iff.1 ran
  obtain ⟨more, m', taken, ran⟩ := bind_eq_some_iff.1 ran
  obtain ⟨text, starts⟩ := satisfy_eq_some letter
  cases taken
  cases ran
  refine ⟨⟨first, m.rest, text, Text.isMargin_of_isIdStart starts⟩, ?_⟩
  rw [text, String.toList_ofList]
  exact List.cons_prefix_cons.2 ⟨rfl, List.takeWhile_prefix _⟩

/-- The character ahead decides what kind of term is read, and is no margin. -/
theorem isSolid_of_plainTerm {found : Term} (ran : plainTerm nested flags c = some (found, d)) :
    c.IsSolid := by
  obtain ⟨_, _, ⟨⟩, ran⟩ := bind_eq_some_iff.1 ran
  generalize ahead : c.rest.head? = next at ran
  split at ran
  iterate 6 exact Cursor.isSolid_of_head? ahead (by decide)
  · split at ran
    · next digit => exact Cursor.isSolid_of_head? ahead (Text.isMargin_of_isDigit digit)
    · obtain ⟨word, m, read, -⟩ := bind_eq_some_iff.1 ran
      obtain ⟨name, m', word, -⟩ := bind_eq_some_iff.1 read
      exact (begins_of_identifier word).1
  · cases ran

theorem isSolid_of_unaryOps {op : UnaryOp} (ran : unaryOps c = some (op, d)) : c.IsSolid := by
  obtain ⟨first, m, ran, -⟩ := bind_eq_some_iff.1 ran
  rcases orElse_eq_some ran with ran | ran
  · rw [seqRight_eq_bind] at ran
    obtain ⟨_, m', sign, -⟩ := bind_eq_some_iff.1 ran
    exact isSolid_of_exactly sign rfl (by decide)
  · rw [seqRight_eq_bind] at ran
    obtain ⟨_, m', sign, -⟩ := bind_eq_some_iff.1 ran
    exact isSolid_of_exactly sign rfl (by decide)

theorem isSolid_of_term {found : Term} (ran : term nested flags c = some (found, d)) :
    c.IsSolid := by
  rcases orElse_eq_some ran with ran | ran
  · exact isSolid_of_plainTerm ran
  · obtain ⟨op, m, signs, -⟩ := bind_eq_some_iff.1 ran
    exact isSolid_of_unaryOps signs

/-- An expression starts where the first term of its first chain does. -/
theorem isSolid_of_nestedTo {depth : Nat} {parsed : Parsed}
    (ran : (nestedTo depth).expr flags c = some (parsed, d)) : c.IsSolid := by
  cases depth with
  | zero => cases ran
  | succ depth =>
      obtain ⟨found, m, chained, -⟩ := bind_eq_some_iff.1 ran
      obtain ⟨head, m', first, -⟩ := bind_eq_some_iff.1 chained
      exact isSolid_of_term first

end Reader

/-! ## Nodes -/

/-- What a finding can be about. -/
inductive Node where
  /-- The key of an attribute. -/
  | key (attr : Attribute)
  /-- An element of an array literal. -/
  | element (token : Token)
  | block (block : Block)

namespace Node

/-- The file and line that a node carries. -/
def spot : Node → String × Nat
  | key attr => (attr.file, attr.line)
  | element token => token.spot
  | block found => found.spot

/-- The text that a node begins with. -/
def text : Node → String
  | key attr => attr.name
  | element token => token.raw
  | block found => found.kind

/-- A node is what the grammar reads from a place on: an attribute for its key, an expression for an
element, and a block. -/
inductive IsReadAt (origin : Origin) (place : Cursor) : Node → Prop where
  | key {attr : Attribute} {last : Cursor} :
      Reader.setting origin place = some (attr, last) →
      IsReadAt origin place (.key attr)
  | element {span : Spanned} {depth : Nat} :
      span.first = place → span.IsRead (Reader.nestedTo depth) →
      IsReadAt origin place (.element (origin.token span (origin.lineAt place)))
  | block {block : Block} {depth : Nat} {last : Cursor} :
      Reader.bodyItem origin (Reader.bodyTo origin depth) place = some (.block block, last) →
      IsReadAt origin place (.block block)

namespace IsReadAt

variable {origin : Origin} {place : Cursor} {node : Node}

/-- A node carries the line of the place where it is read. -/
theorem spot_eq (read : node.IsReadAt origin place) :
    node.spot = (origin.file, origin.lineAt place) := by
  cases read with
  | key ran =>
      obtain ⟨name, m, m', -, -, ran⟩ := Reader.setting_eq_some ran
      obtain ⟨m'', parsed, -, -, rfl⟩ := Reader.settingValue_eq_some ran
      rfl
  | element _ _ => rfl
  | block ran =>
      rcases Reader.bodyItem_eq_some ran with ⟨attr, ⟨⟩, -⟩ |
        ⟨kind, labels, inner, m, m', ⟨⟩, -⟩
      rfl

/-- At the place where a node is read stand neither a blank nor a comment, but its text. -/
theorem begins (read : node.IsReadAt origin place) :
    place.IsSolid ∧ node.text.toList <+: place.rest := by
  cases read with
  | key ran =>
      obtain ⟨name, m, m', word, -, ran⟩ := Reader.setting_eq_some ran
      obtain ⟨m'', parsed, -, -, rfl⟩ := Reader.settingValue_eq_some ran
      exact Reader.begins_of_identifier word
  | @element span depth starts read =>
      subst starts
      obtain ⟨flags, parsed, ran, -⟩ := read
      have solid := Reader.isSolid_of_nestedTo ran
      refine ⟨solid, ?_⟩
      rw [text, Origin.token, String.toList_ofList]
      exact solid.between_prefix span.last
  | block ran =>
      rcases Reader.bodyItem_eq_some ran with ⟨attr, ⟨⟩, -⟩ |
        ⟨kind, labels, inner, m, m', ⟨⟩, word, -⟩
      exact Reader.begins_of_identifier word

end IsReadAt

end Node

/-! ## The nodes of a body -/

/-- The body of a block. -/
def Block.body (block : Block) : Body := ⟨block.attributes, block.blocks⟩

/-- The body of a file. -/
def ConfigFile.body (file : ConfigFile) : Body := ⟨file.attributes, file.blocks⟩

namespace Body

/-- A body has the keys of its attributes, the elements of their array literals and its blocks, and
all nodes that the bodies of these have. -/
inductive Has : Body → Node → Prop where
  | key {body : Body} {attr : Attribute} :
      attr ∈ body.attributes → Has body (.key attr)
  | element {body : Body} {attr : Attribute} {tokens : List Token} {token : Token} :
      attr ∈ body.attributes → attr.elements = some tokens → token ∈ tokens →
      Has body (.element token)
  | block {body : Body} {block : Block} :
      block ∈ body.blocks → Has body (.block block)
  | inside {body : Body} {block : Block} {node : Node} :
      block ∈ body.blocks → Has block.body node → Has body node

/-- The attributes and blocks of a body are read at places further on. -/
structure IsReadAfter (origin : Origin) (first : Cursor) (body : Body) : Prop where
  keys : ∀ attr ∈ body.attributes, ∃ place, first.Reaches place ∧
    Node.IsReadAt origin place (.key attr)
  blocks : ∀ block ∈ body.blocks, ∃ place, first.Reaches place ∧
    Node.IsReadAt origin place (.block block)

variable {origin : Origin} {first c : Cursor} {body : Body}

theorem IsReadAfter.from_earlier (reaches : first.Reaches c) (read : body.IsReadAfter origin c) :
    body.IsReadAfter origin first where
  keys attr member := by
    obtain ⟨place, later, reads⟩ := read.keys attr member
    exact ⟨place, reaches.trans later, reads⟩
  blocks block member := by
    obtain ⟨place, later, reads⟩ := read.blocks block member
    exact ⟨place, reaches.trans later, reads⟩

end Body

namespace Reader

variable {origin : Origin} {c d place : Cursor}

theorem mem_bodyItems {body : Reader Body} [Forward body] {fuel : Nat} {items : List BodyItem}
    (ran : bodyItems origin body fuel c = some (items, d)) :
    ∀ item ∈ items, ∃ place last, c.Reaches place ∧
      bodyItem origin body place = some (item, last) := by
  induction fuel generalizing c items with
  | zero =>
      cases ran
      simp
  | succ fuel ih =>
      rcases bodyItems_eq_some ran with ⟨rfl, rfl⟩ | ⟨item, rest, m, m', rfl, first, later, others⟩
      · simp
      · refine List.forall_mem_cons.2 ⟨⟨c, m, .refl c, first⟩, fun other member => ?_⟩
        obtain ⟨place, last, further, read⟩ := ih others other member
        exact ⟨place, last, ((Forward.reaches first).trans later).trans further, read⟩

theorem isReadAfter_of_bodyTo {depth : Nat} {body : Body}
    (ran : bodyTo origin depth c = some (body, d)) : body.IsReadAfter origin c := by
  cases depth with
  | zero => cases ran
  | succ depth =>
      obtain ⟨items, fuel, m, before, read, made⟩ := bodyTo_eq_some ran
      obtain ⟨attributes, blocks⟩ := Body.mem_of_ofItems? made
      refine .from_earlier before ⟨fun attr member => ?_, fun block member => ?_⟩
      · obtain ⟨place, last, later, reads⟩ := mem_bodyItems read _ (attributes attr member)
        rcases bodyItem_eq_some reads with ⟨attr, ⟨⟩, reads⟩ | ⟨_, _, _, _, _, ⟨⟩, -⟩
        exact ⟨place, later, .key reads⟩
      · obtain ⟨place, last, later, reads⟩ := mem_bodyItems read _ (blocks block member)
        exact ⟨place, later, .block reads⟩

theorem isReadAfter_of_blockBody {depth : Nat} {body : Body}
    (ran : blockBody origin (bodyTo origin depth) c = some (body, d)) :
    body.IsReadAfter origin c := by
  rcases blockBody_eq_some ran with ⟨m, m', before, read, -⟩ | ⟨given, m, m', rfl, before, read, -⟩
  · exact (isReadAfter_of_bodyTo read).from_earlier before
  · refine ⟨fun attr member => ?_, by simp⟩
    rcases attempt_eq_some read with ⟨only, rfl, reads⟩ | ⟨rfl, -⟩
    · cases List.mem_singleton.1 member
      exact ⟨m, before, .key reads⟩
    · cases member

end Reader

namespace Node.IsReadAt

variable {origin : Origin} {place : Cursor}

/-- The body of a block is read behind the place of the block. -/
theorem body {block : Block} (read : IsReadAt origin place (.block block)) :
    block.body.IsReadAfter origin place := by
  cases read with
  | block ran =>
      rcases Reader.bodyItem_eq_some ran with ⟨attr, ⟨⟩, -⟩ |
        ⟨kind, labels, inner, m, m', ⟨⟩, word, later, braces⟩
      exact (Reader.isReadAfter_of_blockBody braces).from_earlier
        ((Reader.Forward.reaches word).trans later)

/-- The elements of an attribute are read behind the place of its key. -/
theorem elements {attr : Attribute} (read : IsReadAt origin place (.key attr))
    {tokens : List Token} (given : attr.elements = some tokens) {token : Token}
    (member : token ∈ tokens) :
    ∃ place', place.Reaches place' ∧ IsReadAt origin place' (.element token) := by
  cases read with
  | key ran =>
      obtain ⟨name, m, m', word, later, ran⟩ := Reader.setting_eq_some ran
      obtain ⟨m'', parsed, equals, value, rfl⟩ := Reader.settingValue_eq_some ran
      obtain ⟨spans, found, rfl⟩ := Option.map_eq_some_iff.1 given
      obtain ⟨span, among, rfl⟩ := List.mem_map.1 member
      obtain ⟨further, reads⟩ := (Reader.lays_expr value spans found).each span among
      have earlier := ((Reader.Forward.reaches word).trans later).trans equals
      exact ⟨span.first, earlier.trans further, .element rfl reads⟩

end Node.IsReadAt

namespace Body

/-- Every node of a body, however deep, is read at a place further on. -/
theorem Has.exists_place {origin : Origin} {first : Cursor} {body : Body} {node : Node}
    (has : body.Has node) (read : body.IsReadAfter origin first) :
    ∃ place, first.Reaches place ∧ node.IsReadAt origin place := by
  induction has generalizing first with
  | key member => exact read.keys _ member
  | element member given among =>
      obtain ⟨place, later, reads⟩ := read.keys _ member
      obtain ⟨place', further, element⟩ := reads.elements given among
      exact ⟨place', later.trans further, element⟩
  | block member => exact read.blocks _ member
  | inside member _ ih =>
      obtain ⟨place, later, reads⟩ := read.blocks _ member
      obtain ⟨place', further, inner⟩ := ih reads.body
      exact ⟨place', later.trans further, inner⟩

end Body

/-- Every node of a file that has been read is read at a place of the text. -/
theorem ConfigFile.exists_place_of_parse? {path source : String} {file : ConfigFile}
    (parsed : parse? path source = some file) {node : Node} (has : file.body.Has node) :
    ∃ place, (Cursor.start source).Reaches place ∧
      node.IsReadAt ⟨path, Text.LineIndex.ofText source⟩ place := by
  obtain ⟨⟨body, last⟩, ran, made⟩ := Option.bind_eq_some_iff.1 parsed
  cases made
  rw [Reader.wholeBody, seqLeft_eq_bind] at ran
  obtain ⟨found, m, whole, ran⟩ := Reader.bind_eq_some_iff.1 ran
  obtain ⟨_, m', -, ran⟩ := Reader.bind_eq_some_iff.1 ran
  cases ran
  exact has.exists_place (Reader.isReadAfter_of_bodyTo whole)

end InfraLint
