import RecordQuery.Proofs.Literals.Failure
import RecordQuery.Proofs.Scoping.Reach

/-!
# Queries match alike

A query with literals and a query with references in their place match the same inputs, of those
where the member holds the text of the literals (`parse_exchange`).  The query with references
compiles if the one with literals does.  The converse fails for a literal that is no regular
expression where one is asked for, and for a call that rejects its literals.  There the other
query goes on: the comparison has the answer of a pattern that fits no text, the call is null.
-/

set_option autoImplicit false

namespace RecordQuery

variable {ρ : Type}

namespace Exchange

/-! ## Compiling -/

section Compiling

variable [BEq ρ] {exchange : Exchange ρ} {now : DateTime} {query query' : String}

/-- If the query with literals compiles, so does the one with references. -/
theorem Facing.parse_forward {expr : Expr ρ}
    (facing : exchange.Facing 0 query.toList query'.toList)
    (parses : parse now exchange.root query = .ok expr) :
    ∃ expr', parse now exchange.root query' = .ok expr' ∧ exchange.Alike expr expr' := by
  obtain ⟨rest, derivation, ⟨word, after, ends, last⟩, boolean⟩ := parse_eq_ok_iff.1 parses
  obtain ⟨expr', rest', derivation', alike, facing⟩ := derivation.forward rfl _ facing
  obtain ⟨after', ends', _⟩ := facing.forward_kind ends last nofun
  rw [← alike.type] at boolean
  exact ⟨expr', parse_eq_ok_iff.2 ⟨rest', derivation', ⟨word, after', ends', last⟩, boolean⟩,
    alike⟩

/-- If the query with references compiles, so does the one with literals, or a literal is to
blame. -/
theorem Facing.parse_backward {expr' : Expr ρ}
    (facing : exchange.Facing 0 query.toList query'.toList)
    (parses' : parse now exchange.root query' = .ok expr') :
    (∃ expr, parse now exchange.root query = .ok expr ∧ exchange.Alike expr expr') ∨
      ∃ error, parse now exchange.root query = .error error ∧
        exchange.Blames expr' error.cause := by
  obtain ⟨rest', derivation', ⟨word, after', ends', last⟩, boolean⟩ := parse_eq_ok_iff.1 parses'
  have ends := derivation'.backward rfl (Cursor.start query) facing
  cases returns : Parser.expression now ⟨exchange.root, []⟩ lowestPrecedence (Cursor.start query)
    with
  | ok read =>
      rw [returns] at ends
      obtain ⟨alike, facing⟩ := ends
      obtain ⟨after, ends, _⟩ := facing.backward_kind ends' last nofun
      rw [alike.type] at boolean
      exact .inl ⟨read.value, parse_eq_ok_iff.2
        ⟨_, Parser.expression_sound returns, ⟨word, after, ends, last⟩, boolean⟩, alike⟩
  | error stuck =>
      rw [returns] at ends
      refine .inr ⟨stuck.error, ?_, ends⟩
      have fails : Parser.query now ⟨exchange.root, []⟩ (Cursor.start query) = .error stuck := by
        rw [Parser.query, returns]
        rfl
      unfold parse Parser.nextQuery Parser.start Parser.scope
      rw [fails]
      rfl

end Compiling

/-! ## Evaluation -/

section Evaluation

/-- There is a frame for each type, and the input of the query holds the text. -/
structure FitsFrames (exchange : Exchange ρ) (types : List (ValueType ρ)) (frames : Frames ρ) :
    Prop where
  length : frames.inputs.length = types.length
  fits : exchange.Fits frames.environment

variable {exchange : Exchange ρ}

theorem FitsFrames.start {type : ValueType ρ} {input : Value ρ}
    (holds : exchange.member.readFrom input = .string exchange.text) :
    exchange.FitsFrames [type] (.start input) :=
  ⟨rfl, input, rfl, holds⟩

variable [BEq ρ]

theorem FitsFrames.inside {types inner : List (ValueType ρ)} {frames reached : Frames ρ}
    (fit : exchange.FitsFrames types frames) (inside : Frames.Inside types frames inner reached) :
    exchange.FitsFrames inner reached := by
  cases inside with
  | same => exact fit
  | entered =>
      refine ⟨Frames.fits_append fit.length, ?_⟩
      rw [Frames.environment, List.reverse_append]
      exact fit.fits.cons _

/-- Over an input that holds the text, the evaluation of a query finds this value wherever it comes
to the part. -/
def Gives (exchange : Exchange ρ) (whole part : Expr ρ) (value : Value ρ) : Prop :=
  ∀ (input : Value ρ) (frames : Frames ρ),
    exchange.member.readFrom input = .string exchange.text →
    whole.Reaches (.start input) part frames → part.eval.run frames = (value, frames)

variable {whole part : Expr ρ} {value : Value ρ}

/-- A part is evaluated in environments that end with the input of the query. -/
theorem gives_of_valueIn {type : ValueType ρ} (typed : whole.Typed [type])
    (same : ∀ environment, exchange.Fits environment → part.valueIn environment = value) :
    exchange.Gives whole part value := by
  intro input frames holds reaches
  obtain ⟨inner, part_typed, fit⟩ :=
    reaches.keeps FitsFrames.length FitsFrames.inside typed (.start holds)
  rw [part_typed.runsIn frames fit.length, same _ fit.fits]

theorem gives_of_invalid {type : ValueType ρ} {op : PatternOp} {left : Expr ρ}
    {fault : Regex.Fault} (typed : whole.Typed [type]) (is_regex : op.isRegex = true)
    (invalid : Regex.Pattern.ofChars exchange.text.toList = .error fault) :
    exchange.Gives whole (.pattern op none left exchange.reference) (.boolean op.isNegated) := by
  refine gives_of_valueIn typed fun environment fits => ?_
  rw [Expr.valueIn, valueIn_reference fits]
  exact congrArg Value.boolean (PatternOp.apply_of_invalid is_regex invalid _)

theorem gives_of_rejected {type : ValueType ρ} {function : Function} {arguments : List (Expr ρ)}
    {fault : ReadingFault} (typed : whole.Typed [type])
    (rejects : ∀ environment, exchange.Fits environment →
      function.apply (Expr.valuesIn environment arguments) = .error fault) :
    exchange.Gives whole (.call function arguments) .null := by
  refine gives_of_valueIn typed fun environment fits => ?_
  rw [Expr.valueIn, rejects environment fits]
  rfl

end Evaluation

end Exchange

/-! ## Queries -/

/-- Work on literals when a query is read agrees with the work at run time.  Let two queries be word
for word the same, except that literals of the first one are references to a text member of the
input in the second one.  If the first one compiles, so does the second one, and both match the
same inputs of those where the member holds the text of the literals.  If the second one compiles
and the first one does not, then either its error is about a pattern that is no regular expression,
and the second one has a comparison with the member that is false for `=~` and true for `!~`
wherever the evaluation comes to it; or its error is about a call that rejects its arguments, and
the second one has a call with the member among the arguments that is null there. -/
theorem parse_exchange [BEq ρ] {exchange : Exchange ρ} {now : DateTime} {query query' : String}
    (facing : exchange.Facing 0 query.toList query'.toList) :
    (∀ expr, parse now exchange.root query = .ok expr →
      ∃ expr', parse now exchange.root query' = .ok expr' ∧
        ∀ input, exchange.member.readFrom input = .string exchange.text →
          expr'.holdsOn input = expr.holdsOn input) ∧
    ∀ expr' error, parse now exchange.root query' = .ok expr' →
      parse now exchange.root query = .error error →
      (error.cause.kind = .invalidPattern ∧ ∃ op left fault,
        error.cause = .invalidPattern fault ∧
        Regex.Pattern.ofChars exchange.text.toList = .error fault ∧
        PatternOp.isRegex op = true ∧
        (Expr.pattern op none left exchange.reference).PartOf expr' ∧
        exchange.Gives expr' (.pattern op none left exchange.reference)
          (.boolean op.isNegated)) ∨
      (error.cause.kind = .invalidLiteral ∧ ∃ function arguments fault,
        error.cause = .rejectedArgument fault ∧ exchange.reference ∈ arguments ∧
        (∀ environment, exchange.Fits environment →
          function.apply (Expr.valuesIn environment arguments) = .error fault) ∧
        (Expr.call function arguments).PartOf expr' ∧
        exchange.Gives expr' (.call function arguments) .null) := by
  constructor
  · intro expr parses
    obtain ⟨expr', parses', alike⟩ := facing.parse_forward parses
    obtain ⟨typed, _⟩ := typed_of_parse parses
    obtain ⟨typed', _⟩ := typed_of_parse parses'
    refine ⟨expr', parses', fun input holds => ?_⟩
    rw [Expr.holdsOn, Expr.holdsOn, Expr.valueOn, Expr.valueOn, typed.runsIn (.start input) rfl,
      typed'.runsIn (.start input) rfl, alike.value _ ⟨input, rfl, holds⟩]
  · intro expr' error parses' fails
    obtain ⟨typed', _⟩ := typed_of_parse parses'
    rcases facing.parse_backward parses' with ⟨expr, parses, _⟩ | ⟨found, fails', blames⟩
    · cases fails.symm.trans parses
    · cases fails.symm.trans fails'
      generalize error.cause = cause at blames
      cases blames with
      | @pattern op left fault part is_regex invalid =>
          exact .inl ⟨rfl, op, left, fault, rfl, invalid, is_regex, part,
            Exchange.gives_of_invalid typed' is_regex invalid⟩
      | @call function arguments fault part mem rejects =>
          exact .inr ⟨rfl, function, arguments, fault, rfl, mem, rejects, part,
            Exchange.gives_of_rejected typed' rejects⟩

theorem parse_exchange_pattern :
    ∃ (now : DateTime) (valid invalid : Exchange (String × List String))
      (expr expr' whole' : Expr (String × List String)) (error : CompileError),
      valid.name = "m" ∧ valid.text = "b" ∧ invalid.name = "m" ∧ invalid.text = "(" ∧
      parse now valid.root "xs any \x7b $ =~ \"b\" \x7d" = .ok expr ∧
      parse now valid.root "xs any \x7b $ =~ $$.m \x7d" = .ok expr' ∧
      expr'.holdsOn (.record ("b", ["abc"])) = expr.holdsOn (.record ("b", ["abc"])) ∧
      parse now invalid.root "$.m =~ \"(\"" = .error error ∧ error.cause.kind = .invalidPattern ∧
      parse now invalid.root "$.m =~ $.m" = .ok whole' ∧
      ∃ op left, PatternOp.isRegex op = true ∧
        invalid.Gives whole' (.pattern op none left invalid.reference) (.boolean op.isNegated) := by
  have exchange : ∀ text : String, ∃ exchange : Exchange (String × List String),
      exchange.root = .record "sample" [⟨"m", .string, fun record => .string record.1⟩,
        ⟨"xs", .sequence .string, fun record => .sequence (record.2.map .string)⟩] ∧
      exchange.name = "m" ∧ exchange.text = text ∧
      ∀ record, exchange.member.readFrom (.record record) = .string record.1 :=
    fun text => ⟨⟨.record "sample" [⟨"m", .string, fun record => .string record.1⟩,
      ⟨"xs", .sequence .string, fun record => .sequence (record.2.map .string)⟩], "m",
      ⟨"m", .string, fun record => .string record.1⟩, by cbv, rfl, text⟩,
      rfl, rfl, rfl, fun _ => rfl⟩
  obtain ⟨valid, root, name, text, reads⟩ := exchange "b"
  obtain ⟨invalid, root', name', text', _⟩ := exchange "("
  have literal : Word.read? " \"b\" \x7d".toList =
    some (⟨.literal, "\"b\"", some (.string "b")⟩, " \x7d".toList) := rfl
  have operand : valid.Facing 1 " \"b\" \x7d".toList " $$.m \x7d".toList :=
    .literal literal rfl (by rw [text])
      ⟨⟨.input, "$$", none⟩, ⟨.mark .dot, ".", none⟩, ⟨.identifier, "m", none⟩, ".m \x7d".toList,
        "m \x7d".toList, " \x7d".toList, rfl, rfl, rfl, rfl, rfl, rfl, rfl, name.symm⟩ .refl
  have facing : valid.Facing 0 "xs any \x7b $ =~ \"b\" \x7d".toList
      "xs any \x7b $ =~ $$.m \x7d".toList :=
    .word rfl rfl (.word rfl rfl (.word rfl rfl (.word rfl rfl (.word rfl rfl operand))))
  have literal' : Word.read? " \"(\"".toList =
    some (⟨.literal, "\"(\"", some (.string "(")⟩, []) := rfl
  have operand' : invalid.Facing 0 " \"(\"".toList " $.m".toList :=
    .literal literal' rfl (by rw [text'])
      ⟨⟨.input, "$", none⟩, ⟨.mark .dot, ".", none⟩, ⟨.identifier, "m", none⟩, ".m".toList,
        "m".toList, [], rfl, rfl, rfl, rfl, rfl, rfl, rfl, name'.symm⟩ .refl
  have facing' : invalid.Facing 0 "$.m =~ \"(\"".toList "$.m =~ $.m".toList :=
    .word rfl rfl (.word rfl rfl (.word rfl rfl (.word rfl rfl operand')))
  have parses : parse ⟨⟨0, by decide⟩, .midnight⟩ valid.root "xs any \x7b $ =~ \"b\" \x7d" =
      .ok (.nested .any 1
        (.member (.input 0 valid.root)
          ⟨"xs", .sequence .string, fun record => .sequence (record.2.map .string)⟩)
        (.pattern .matchesRegex (some (.one ⟨(· == 'b'), 1⟩)) (.input 1 .string)
          (.literal (.string "b")))) := by
    rw [root]
    cbv
  have fails : parse ⟨⟨0, by decide⟩, .midnight⟩ invalid.root "$.m =~ \"(\"" =
      .error ⟨"$.m =~ \"(\"", 4, 6, .invalidPattern .unclosedGroup⟩ := by
    rw [root']
    cbv
  have parses' : parse ⟨⟨0, by decide⟩, .midnight⟩ invalid.root "$.m =~ $.m" =
      .ok (.pattern .matchesRegex none
        (.member (.input 0 invalid.root) ⟨"m", .string, fun record => .string record.1⟩)
        (.member (.input 0 invalid.root) ⟨"m", .string, fun record => .string record.1⟩)) := by
    rw [root']
    cbv
  obtain ⟨expr', others, same⟩ := (parse_exchange facing).1 _ parses
  have holds : valid.member.readFrom (.record ("b", ["abc"])) = .string valid.text := by
    rw [reads, text]
  rcases (parse_exchange facing').2 _ _ parses' fails with
    ⟨kind, op, left, _, _, _, is_regex, _, gives⟩ | ⟨kind, _⟩
  · exact ⟨_, valid, invalid, _, expr', _, _, name, text, name', text', parses, others,
      same _ holds, fails, kind, parses', op, left, is_regex, gives⟩
  · cases kind

end RecordQuery
