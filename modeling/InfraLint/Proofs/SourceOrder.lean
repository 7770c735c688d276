import InfraLint.Proofs.LineNumbers
import Mathlib.Data.List.Pairwise
import Mathlib.Data.Nat.Basic

/-!
# Files keep the order of their source

Reading only moves forward, so what is read later does not stand on an earlier line.  A file that has
been read is therefore laid out in source order (`ConfigFile.InOrder`): its blocks follow one another,
and what a block holds stands between its own first line and the block after it.  The elements of an
array literal, which findings cite one by one, follow one another as well.
-/

namespace InfraLint

/-! ## Lines in order -/

/-- Places in a file, given by file and line, whose lines do not fall and stay between `low` and
`high`. -/
structure Ascends (file : String) (low high : Nat) (spots : List (String × Nat)) : Prop where
  within : ∀ spot ∈ spots, spot.1 = file ∧ low ≤ spot.2 ∧ spot.2 ≤ high
  ordered : spots.Pairwise (·.2 ≤ ·.2)

namespace Ascends

variable {file : String} {low mid high : Nat} {spots others : List (String × Nat)}

theorem nil : Ascends file low high [] := ⟨by simp, .nil⟩

theorem singleton {line : Nat} (least : low ≤ line) (most : line ≤ high) :
    Ascends file low high [(file, line)] :=
  ⟨by simpa using ⟨least, most⟩, List.pairwise_singleton _ _⟩

theorem widen {low' high' : Nat} (ascends : Ascends file low high spots) (least : low' ≤ low)
    (most : high ≤ high') : Ascends file low' high' spots := by
  refine ⟨fun spot member => ?_, ascends.ordered⟩
  obtain ⟨cited, above, below⟩ := ascends.within spot member
  exact ⟨cited, least.trans above, below.trans most⟩

theorem sublist (ascends : Ascends file low high spots) (part : others.Sublist spots) :
    Ascends file low high others :=
  ⟨fun spot member => ascends.within spot (part.subset member), ascends.ordered.sublist part⟩

theorem append (first : Ascends file low mid spots) (second : Ascends file mid high others)
    (least : low ≤ mid) (most : mid ≤ high) : Ascends file low high (spots ++ others) := by
  constructor
  · intro spot member
    rcases List.mem_append.1 member with member | member
    · exact (first.widen le_rfl most).within spot member
    · exact (second.widen least le_rfl).within spot member
  · refine List.pairwise_append.2 ⟨first.ordered, second.ordered, fun spot member other member' => ?_⟩
    exact (first.within spot member).2.2.trans (second.within other member').2.1

theorem of_forall_eq {line : Nat} (all : ∀ spot ∈ spots, spot = (file, line)) (least : low ≤ line)
    (most : line ≤ high) : Ascends file low high spots := by
  constructor
  · intro spot member
    rw [all spot member]
    exact ⟨rfl, least, most⟩
  · refine List.pairwise_of_forall_mem_list fun spot member other member' => ?_
    rw [all spot member, all other member']

end Ascends

theorem Origin.lineAt_mono (origin : Origin) {c d : Cursor} (reaches : c.Reaches d) :
    origin.lineAt c ≤ origin.lineAt d :=
  origin.index.lineOf_mono reaches.offset_le

/-! ## The elements of an array literal -/

/-- A span is what the reader for nested expressions reads from its first place on. -/
def Spanned.IsRead (nested : Nested) (span : Spanned) : Prop :=
  ∃ flags parsed, nested.expr flags span.first = some (parsed, span.last) ∧ span.expr = parsed.expr

/-- On the way from one place to another, spans are read one after the other. -/
def Spanned.Follow (nested : Nested) : Cursor → List Spanned → Cursor → Prop
  | c, [], d => c.Reaches d
  | c, span :: rest, d =>
    c.Reaches span.first ∧ span.IsRead nested ∧ Follow nested span.last rest d

namespace Spanned

variable {nested : Nested}

theorem IsRead.reaches [nested.Forward] {span : Spanned} (read : span.IsRead nested) :
    span.first.Reaches span.last := by
  obtain ⟨flags, parsed, ran, -⟩ := read
  exact Reader.Forward.reaches ran

namespace Follow

variable {c d e : Cursor} {spans : List Spanned}

theorem from_earlier (reaches : c.Reaches d) (follow : Follow nested d spans e) :
    Follow nested c spans e := by
  cases spans with
  | nil => exact reaches.trans follow
  | cons span rest => exact ⟨reaches.trans follow.1, follow.2⟩

theorem to_later (follow : Follow nested c spans d) (reaches : d.Reaches e) :
    Follow nested c spans e := by
  induction spans generalizing c with
  | nil => exact follow.trans reaches
  | cons span rest ih => exact ⟨follow.1, follow.2.1, ih follow.2.2⟩

theorem cons {span : Spanned} (first : Follow nested c [span] d) (rest : Follow nested d spans e) :
    Follow nested c (span :: spans) e :=
  ⟨first.1, first.2.1, rest.from_earlier first.2.2⟩

variable [nested.Forward]

theorem reaches (follow : Follow nested c spans d) : c.Reaches d := by
  induction spans generalizing c with
  | nil => exact follow
  | cons span rest ih =>
      obtain ⟨before, read, after⟩ := follow
      exact (before.trans read.reaches).trans (ih after)

/-- Each of the spans is read at a place on the way. -/
theorem each (follow : Follow nested c spans d) :
    ∀ span ∈ spans, c.Reaches span.first ∧ span.IsRead nested := by
  induction spans generalizing c with
  | nil => simp
  | cons span rest ih =>
      obtain ⟨before, read, after⟩ := follow
      refine List.forall_mem_cons.2 ⟨⟨before, read⟩, fun other member => ?_⟩
      obtain ⟨later, read'⟩ := ih after other member
      exact ⟨(before.trans read.reaches).trans later, read'⟩

/-- The tokens of spans that follow one another have ascending lines. -/
theorem ascends (origin : Origin) (follow : Follow nested c spans d) :
    Ascends origin.file (origin.lineAt c) (origin.lineAt d)
      (spans.map fun span => (origin.file, origin.lineAt span.first)) := by
  induction spans generalizing c with
  | nil => exact .nil
  | cons span rest ih =>
      obtain ⟨before, read, after⟩ := follow
      have start := origin.lineAt_mono before
      have stop := origin.lineAt_mono (read.reaches.trans after.reaches)
      have tail := (ih after).widen (origin.lineAt_mono read.reaches) le_rfl
      exact (Ascends.singleton start le_rfl).append tail start stop

end Follow

end Spanned

namespace Reader

variable {α β : Type} {c d : Cursor} {nested : Nested} {flags : Flags}

theorem follow_spanned {span : Spanned}
    (ran : spanned (nested.expr flags) c = some (span, d)) :
    Spanned.Follow nested c [span] d := by
  obtain ⟨first, m, start, ran⟩ := bind_eq_some_iff.1 ran
  obtain ⟨parsed, m', inner, ran⟩ := bind_eq_some_iff.1 ran
  obtain ⟨last, m'', stop, ran⟩ := bind_eq_some_iff.1 ran
  cases start
  cases stop
  cases ran
  exact ⟨.refl _, ⟨flags, parsed, inner, rfl⟩, .refl _⟩

theorem follow_manyUpTo {p : Reader Spanned}
    (each : ∀ {c span d}, p c = some (span, d) → Spanned.Follow nested c [span] d) (fuel : Nat)
    {spans : List Spanned} (ran : manyUpTo p fuel c = some (spans, d)) :
    Spanned.Follow nested c spans d := by
  induction fuel generalizing c spans with
  | zero =>
      cases ran
      exact Cursor.Reaches.refl _
  | succ fuel ih =>
      unfold manyUpTo at ran
      split at ran
      · cases ran
        exact Cursor.Reaches.refl _
      · next span m first =>
          split at ran
          · next rest m' others =>
              cases ran
              exact (each first).cons (ih others)
          · cases ran

theorem follow_commaSeparated {spans : List Spanned}
    (ran : commaSeparated nested flags c = some (spans, d)) :
    Spanned.Follow nested c spans d := by
  -- the blanks around an element belong to the way from one span to the next
  have element {c d : Cursor} {span : Spanned}
      (ran : (do anyBlanks; let found ← spanned (nested.expr flags); anyBlanks; return found :
        Reader Spanned) c = some (span, d)) : Spanned.Follow nested c [span] d := by
    obtain ⟨_, m, before, ran⟩ := bind_eq_some_iff.1 ran
    obtain ⟨found, m', inner, ran⟩ := bind_eq_some_iff.1 ran
    obtain ⟨_, m'', after, ran⟩ := bind_eq_some_iff.1 ran
    cases ran
    have follow := (follow_spanned inner).from_earlier (Forward.reaches before)
    exact follow.to_later (Forward.reaches after)
  obtain ⟨first, m, head, ran⟩ := bind_eq_some_iff.1 ran
  obtain ⟨rest, m', tail, ran⟩ := bind_eq_some_iff.1 ran
  cases ran
  refine (element head).cons (follow_manyUpTo (fun ran => ?_) _ tail)
  rw [seqRight_eq_bind] at ran
  obtain ⟨_, m, comma, ran⟩ := bind_eq_some_iff.1 ran
  exact (element ran).from_earlier (Forward.reaches comma)

/-- The elements between the brackets of an array literal: none if there is nothing to read. -/
theorem follow_attempt_commaSeparated {found : Option (List Spanned × Bool)}
    (ran : attempt (do
      let elements ← commaSeparated nested flags
      return (elements, ← accept ",")) c = some (found, d)) :
    Spanned.Follow nested c (found.getD ([], false)).1 d := by
  rcases attempt_eq_some ran with ⟨given, rfl, inner⟩ | ⟨rfl, rfl⟩
  · obtain ⟨elements, m, read, inner⟩ := bind_eq_some_iff.1 inner
    obtain ⟨comma, m', accepted, inner⟩ := bind_eq_some_iff.1 inner
    cases inner
    exact (follow_commaSeparated read).to_later (Forward.reaches accepted)
  · exact Cursor.Reaches.refl _

theorem follow_array {parsed : Parsed} (ran : array nested flags c = some (parsed, d)) :
    ∀ spans ∈ parsed.elements, Spanned.Follow nested c spans d := by
  obtain ⟨_, m, opened, ran⟩ := bind_eq_some_iff.1 ran
  obtain ⟨isFor, m₁, ahead, ran⟩ := bind_eq_some_iff.1 ran
  have start := (Forward.reaches opened).trans (Forward.reaches ahead)
  dsimp only at ran
  split at ran
  · obtain ⟨e, m₂, -, ran⟩ := bind_eq_some_iff.1 ran
    obtain ⟨_, m₃, -, ran⟩ := bind_eq_some_iff.1 ran
    cases ran
    simp
  · obtain ⟨found, m₂, inner, ran⟩ := bind_eq_some_iff.1 ran
    obtain ⟨gap, m₃, blanks, ran⟩ := bind_eq_some_iff.1 ran
    obtain ⟨_, m₄, closed, ran⟩ := bind_eq_some_iff.1 ran
    cases ran
    rintro spans ⟨⟩
    have stop := (Forward.reaches blanks).trans (Forward.reaches closed)
    exact ((follow_attempt_commaSeparated inner).from_earlier start).to_later stop

/-- The elements of what is read follow one another on the way. -/
def Lays (nested : Nested) (elements : α → Option (List Spanned)) (p : Reader α) : Prop :=
  ∀ ⦃c a d⦄, p c = some (a, d) → ∀ spans ∈ elements a, Spanned.Follow nested c spans d

theorem lays_pure {elements : α → Option (List Spanned)} {a : α} (none : elements a = none) :
    Lays nested elements (pure a) := by
  rintro c b d ⟨⟩ spans member
  rw [none] at member
  cases member

theorem Lays.bind {elements : β → Option (List Spanned)} {p : Reader α} {f : α → Reader β}
    [forward : Forward p] (second : ∀ a, Lays nested elements (f a)) :
    Lays nested elements (p >>= f) := by
  intro c b d ran spans member
  obtain ⟨a, m, first, ran⟩ := bind_eq_some_iff.1 ran
  exact (second a ran spans member).from_earlier (forward.reaches first)

theorem Lays.orElse {elements : α → Option (List Spanned)} {p q : Reader α}
    (first : Lays nested elements p) (second : Lays nested elements q) :
    Lays nested elements (p <|> q) := by
  intro c a d ran
  rcases orElse_eq_some ran with ran | ran
  · exact first ran
  · exact second ran

/-- Only an array literal has elements, and they are read as part of it. -/
theorem lays_plainTerm (nested : Nested) [nested.Forward] (flags : Flags) :
    Lays nested Term.elements (plainTerm nested flags) := by
  unfold plainTerm
  refine .bind fun ahead => ?_
  split
  · exact .bind fun _ => lays_pure rfl
  · intro c found d ran
    obtain ⟨parsed, m, read, ran⟩ := bind_eq_some_iff.1 ran
    cases ran
    exact follow_array read
  · exact .bind fun _ => lays_pure rfl
  · exact .bind fun _ => lays_pure rfl
  · exact .bind fun _ => .bind fun _ => .bind fun _ => .bind fun _ => .bind fun _ => lays_pure rfl
  · exact .bind fun _ => lays_pure rfl
  · split
    · exact .bind fun _ => lays_pure rfl
    · exact .bind fun _ => lays_pure rfl
  · rintro c found d ⟨⟩

theorem lays_term (nested : Nested) [nested.Forward] (flags : Flags) :
    Lays nested Term.elements (term nested flags) :=
  (lays_plainTerm nested flags).orElse (.bind fun _ => .bind fun _ => lays_pure rfl)

/-- A chain has the elements of its first term, if nothing follows that. -/
theorem lays_chain (nested : Nested) [nested.Forward] (flags : Flags) :
    Lays nested ParsedChain.elements (chain nested flags) := by
  intro c found d ran
  obtain ⟨head, m, first, ran⟩ := bind_eq_some_iff.1 ran
  obtain ⟨path, m₁, steps, ran⟩ := bind_eq_some_iff.1 ran
  obtain ⟨op, m₂, asked, ran⟩ := bind_eq_some_iff.1 ran
  have reaches := (Forward.reaches steps).trans (Forward.reaches asked)
  split at ran
  · cases ran
    intro spans member
    dsimp only at member
    split at member
    · exact (lays_term nested flags first spans member).to_later reaches
    · cases member
  · obtain ⟨_, m₃, -, ran⟩ := bind_eq_some_iff.1 ran
    obtain ⟨right, m₄, -, ran⟩ := bind_eq_some_iff.1 ran
    cases ran
    simp

theorem lays_conditional (nested : Nested) [nested.Forward] (flags : Flags) :
    Lays nested Parsed.elements (conditional nested flags) := by
  intro c parsed d ran
  obtain ⟨found, m, first, ran⟩ := bind_eq_some_iff.1 ran
  obtain ⟨asked, m₁, question, ran⟩ := bind_eq_some_iff.1 ran
  split at ran
  · cases ran
    intro spans member
    exact (lays_chain nested flags first spans member).to_later (Forward.reaches question)
  · -- a conditional has no elements of its own
    iterate 6 obtain ⟨_, _, -, ran⟩ := bind_eq_some_iff.1 ran
    cases ran
    simp

/-- The elements of an expression are read by the readers that are one level below it. -/
theorem lays_expr {parsed : Parsed} (ran : expr flags c = some (parsed, d)) :
    ∀ spans ∈ parsed.elements, Spanned.Follow (nestedTo c.rest.length) c spans d :=
  lays_conditional (nestedTo c.rest.length) flags ran

end Reader

/-! ## Attributes and blocks in order -/

/-- The file and line of a token. -/
def Token.spot (token : Token) : String × Nat := (token.file, token.line)

/-- The file and line of a block. -/
def Block.spot (block : Block) : String × Nat := (block.file, block.line)

/-- An attribute stands in a file between two lines, and its elements from its own line on. -/
structure Attribute.LiesIn (file : String) (low high : Nat) (attr : Attribute) : Prop where
  cited : attr.file = file
  least : low ≤ attr.line
  most : attr.line ≤ high
  elements : ∀ tokens ∈ attr.elements, Ascends file attr.line high (tokens.map Token.spot)

/-- A block stands in a file between two lines, and what it holds from its own line on. -/
structure Block.LiesIn (file : String) (low high : Nat) (block : Block) : Prop where
  cited : block.file = file
  least : low ≤ block.line
  most : block.line ≤ high
  attributes : ∀ attr ∈ block.attributes, attr.LiesIn file block.line high
  blocks : Ascends file block.line high (block.blocks.map Block.spot)

/-- An entry of a body stands in a file between two lines. -/
def BodyItem.LiesIn (file : String) (low high : Nat) : BodyItem → Prop
  | .setting a => a.LiesIn file low high
  | .block b => b.LiesIn file low high

/-- Things that stand between lines, one after the other. -/
def Stacked {α : Type} (lies : Nat → Nat → α → Prop) : Nat → Nat → List α → Prop
  | low, high, [] => low ≤ high
  | low, high, a :: rest => ∃ mid, lies low mid a ∧ Stacked lies mid high rest

/-- A body stands in a file between two lines, with its blocks one after the other. -/
structure Body.InOrder (file : String) (low high : Nat) (body : Body) : Prop where
  attributes : ∀ attr ∈ body.attributes, attr.LiesIn file low high
  blocks : Stacked (Block.LiesIn file) low high body.blocks

variable {file : String} {low high low' high' : Nat}

theorem Attribute.LiesIn.widen {attr : Attribute} (lies : attr.LiesIn file low high)
    (least : low' ≤ low) (most : high ≤ high') : attr.LiesIn file low' high' where
  cited := lies.cited
  least := least.trans lies.least
  most := lies.most.trans most
  elements tokens member := (lies.elements tokens member).widen le_rfl most

theorem Block.LiesIn.widen {block : Block} (lies : block.LiesIn file low high)
    (least : low' ≤ low) (most : high ≤ high') : block.LiesIn file low' high' where
  cited := lies.cited
  least := least.trans lies.least
  most := lies.most.trans most
  attributes attr member := (lies.attributes attr member).widen le_rfl most
  blocks := lies.blocks.widen le_rfl most

theorem BodyItem.LiesIn.widen {item : BodyItem} (lies : item.LiesIn file low high)
    (most : high ≤ high') : item.LiesIn file low high' := by
  cases item with
  | setting a => exact Attribute.LiesIn.widen lies le_rfl most
  | block b => exact Block.LiesIn.widen lies le_rfl most

namespace Stacked

theorem widen {blocks : List Block} (stacked : Stacked (Block.LiesIn file) low high blocks)
    (least : low' ≤ low) (most : high ≤ high') :
    Stacked (Block.LiesIn file) low' high' blocks := by
  induction blocks generalizing low low' with
  | nil => exact (least.trans stacked).trans most
  | cons block rest ih =>
      obtain ⟨mid, lies, above⟩ := stacked
      exact ⟨mid, lies.widen least le_rfl, ih above le_rfl⟩

theorem le {blocks : List Block} (stacked : Stacked (Block.LiesIn file) low high blocks) :
    low ≤ high := by
  induction blocks generalizing low with
  | nil => exact stacked
  | cons block rest ih =>
      obtain ⟨mid, lies, above⟩ := stacked
      exact (lies.least.trans lies.most).trans (ih above)

theorem filter {blocks : List Block} (stacked : Stacked (Block.LiesIn file) low high blocks)
    (keeps : Block → Bool) : Stacked (Block.LiesIn file) low high (blocks.filter keeps) := by
  induction blocks generalizing low with
  | nil => exact stacked
  | cons block rest ih =>
      obtain ⟨mid, lies, above⟩ := stacked
      rw [List.filter_cons]
      split
      · exact ⟨mid, lies, ih above⟩
      · exact (ih above).widen (lies.least.trans lies.most) le_rfl

/-- What is found in blocks that follow one another, and inside each of them ascends, ascends. -/
theorem ascends_flatMap {blocks : List Block} {found : Block → List (String × Nat)}
    (stacked : Stacked (Block.LiesIn file) low high blocks)
    (each : ∀ block ∈ blocks, ∀ low high, block.LiesIn file low high →
      Ascends file low high (found block)) :
    Ascends file low high (blocks.flatMap found) := by
  induction blocks generalizing low with
  | nil => exact .nil
  | cons block rest ih =>
      obtain ⟨mid, lies, above⟩ := stacked
      have tail := ih above fun other member => each other (List.mem_cons_of_mem _ member)
      have head := each block List.mem_cons_self low mid lies
      exact head.append tail (lies.least.trans lies.most) above.le

theorem ascends {blocks : List Block} (stacked : Stacked (Block.LiesIn file) low high blocks) :
    Ascends file low high (blocks.map Block.spot) := by
  rw [List.map_eq_flatMap]
  refine stacked.ascends_flatMap fun block _ low high lies => ?_
  rw [Block.spot, lies.cited]
  exact .singleton lies.least lies.most

end Stacked

/-- Entries one after the other make a body in order. -/
theorem Body.InOrder.of_items {items : List BodyItem} {body : Body}
    (stacked : Stacked (BodyItem.LiesIn file) low high items)
    (made : Body.ofItems? items = some body) : body.InOrder file low high := by
  induction items generalizing low body with
  | nil =>
      cases made
      exact ⟨by simp, stacked⟩
  | cons item rest ih =>
      obtain ⟨mid, lies, above⟩ := stacked
      cases item with
      | setting a =>
          obtain ⟨others, made', made⟩ := Option.bind_eq_some_iff.1 made
          have inner := ih above made'
          have least : low ≤ mid := lies.least.trans lies.most
          split at made
          · cases made
          · cases made
            refine ⟨fun attr member => ?_, inner.blocks.widen least le_rfl⟩
            rcases List.mem_cons.1 member with rfl | member
            · exact Attribute.LiesIn.widen lies le_rfl inner.blocks.le
            · exact (inner.attributes attr member).widen least le_rfl
      | block b =>
          obtain ⟨others, made', made⟩ := Option.bind_eq_some_iff.1 made
          have inner := ih above made'
          have least : low ≤ mid := lies.least.trans lies.most
          cases made
          exact ⟨fun attr member => (inner.attributes attr member).widen least le_rfl,
            mid, lies, inner.blocks⟩

theorem Body.InOrder.widen {body : Body} (inOrder : body.InOrder file low high)
    (least : low' ≤ low) (most : high ≤ high') : body.InOrder file low' high' where
  attributes attr member := (inOrder.attributes attr member).widen least most
  blocks := inOrder.blocks.widen least most

/-! ## Reading bodies -/

namespace Reader

variable {origin : Origin} {c d : Cursor}

theorem lies_setting {attr : Attribute} (ran : setting origin c = some (attr, d)) :
    attr.LiesIn origin.file (origin.lineAt c) (origin.lineAt d) := by
  have reaches := Forward.reaches ran
  obtain ⟨name, m, m', word, blanks, ran⟩ := setting_eq_some ran
  obtain ⟨m'', parsed, equals, value, rfl⟩ := settingValue_eq_some ran
  refine ⟨rfl, le_rfl, origin.lineAt_mono reaches, fun tokens member => ?_⟩
  obtain ⟨spans, found, rfl⟩ := Option.map_eq_some_iff.1 member
  have inside := (lays_expr value spans found).ascends origin
  have earlier := ((Forward.reaches word).trans blanks).trans equals
  rw [List.map_map]
  exact inside.widen (origin.lineAt_mono earlier) le_rfl

/-- Every body that is read is in order. -/
def LaysOut (origin : Origin) (body : Reader Body) : Prop :=
  ∀ ⦃c inner d⦄, body c = some (inner, d) →
    inner.InOrder origin.file (origin.lineAt c) (origin.lineAt d)

theorem laysOut_blockBody {body : Reader Body} [Forward body] (inner : LaysOut origin body) :
    LaysOut origin (blockBody origin body) := by
  intro c found d ran
  rcases blockBody_eq_some ran with ⟨m, m', before, read, after⟩ |
    ⟨given, m, m', rfl, before, read, after⟩
  · exact (inner read).widen (origin.lineAt_mono before) (origin.lineAt_mono after)
  · have inside := Forward.reaches read
    refine ⟨fun attr member => ?_, origin.lineAt_mono ((before.trans inside).trans after)⟩
    rcases attempt_eq_some read with ⟨only, rfl, reads⟩ | ⟨rfl, -⟩
    · cases List.mem_singleton.1 member
      exact (lies_setting reads).widen (origin.lineAt_mono before) (origin.lineAt_mono after)
    · cases member

theorem lies_bodyItem {body : Reader Body} [Forward body] (inner : LaysOut origin body)
    {item : BodyItem} (ran : bodyItem origin body c = some (item, d)) :
    item.LiesIn origin.file (origin.lineAt c) (origin.lineAt d) := by
  have reaches := Forward.reaches ran
  rcases bodyItem_eq_some ran with ⟨attr, rfl, value⟩ |
    ⟨kind, labels, held, m, m', rfl, word, read, braces⟩
  · exact lies_setting value
  · have opened := origin.lineAt_mono ((Forward.reaches word).trans read)
    have inOrder := (laysOut_blockBody inner braces).widen opened le_rfl
    exact ⟨rfl, le_rfl, origin.lineAt_mono reaches, inOrder.attributes, inOrder.blocks.ascends⟩

theorem stacked_bodyItems {body : Reader Body} [Forward body] (inner : LaysOut origin body)
    {fuel : Nat} {items : List BodyItem} (ran : bodyItems origin body fuel c = some (items, d)) :
    Stacked (BodyItem.LiesIn origin.file) (origin.lineAt c) (origin.lineAt d) items := by
  induction fuel generalizing c items with
  | zero =>
      cases ran
      exact le_rfl
  | succ fuel ih =>
      rcases bodyItems_eq_some ran with ⟨rfl, rfl⟩ | ⟨item, rest, m, m', rfl, first, later, others⟩
      · exact le_rfl
      · exact ⟨origin.lineAt m', (lies_bodyItem inner first).widen (origin.lineAt_mono later),
          ih others⟩

theorem laysOut_bodyTo (depth : Nat) : LaysOut origin (bodyTo origin depth) := by
  induction depth with
  | zero => rintro c inner d ⟨⟩
  | succ depth ih =>
      intro c inner d ran
      obtain ⟨items, fuel, m, blanks, read, made⟩ := bodyTo_eq_some ran
      have inOrder := Body.InOrder.of_items (stacked_bodyItems ih read) made
      exact inOrder.widen (origin.lineAt_mono blanks) le_rfl

end Reader

/-- A file is laid out in source order: its blocks, which all cite it, follow one another. -/
def ConfigFile.InOrder (file : ConfigFile) : Prop :=
  ∃ low high, Stacked (Block.LiesIn file.path) low high file.blocks

theorem ConfigFile.path_of_parse? {path source : String} {file : ConfigFile}
    (read : parse? path source = some file) : file.path = path := by
  obtain ⟨_, -, made⟩ := Option.bind_eq_some_iff.1 read
  cases made
  rfl

theorem ConfigFile.exists_source_of_mem {path source : String} {file : ConfigFile}
    (read : file ∈ (parse? path source).toList) :
    ∃ source, parse? file.path source = some file := by
  rw [Option.mem_toList] at read
  exact ⟨source, (path_of_parse? read).symm ▸ read⟩

/-- A file that has been read is in source order. -/
theorem ConfigFile.inOrder_of_parse? {path source : String} {file : ConfigFile}
    (read : parse? path source = some file) : file.InOrder := by
  obtain ⟨⟨body, last⟩, ran, made⟩ := Option.bind_eq_some_iff.1 read
  cases made
  rw [Reader.wholeBody, seqLeft_eq_bind] at ran
  obtain ⟨found, m, whole, ran⟩ := Reader.bind_eq_some_iff.1 ran
  obtain ⟨_, m', -, ran⟩ := Reader.bind_eq_some_iff.1 ran
  cases ran
  exact ⟨_, _, (Reader.laysOut_bodyTo _ whole).blocks⟩

end InfraLint
