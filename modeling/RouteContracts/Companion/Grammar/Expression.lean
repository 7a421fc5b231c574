import RouteContracts.Companion.Grammar.Type

/-! # Expressions
How unfinished source text is read where an expression is expected. Items may stand in every block.

* `Rule.expressionOf`: an expression whose operators bind at least so tightly. -/

namespace RouteContracts.Companion.Rule

/-- Where a missing expression is not looked for any more. -/
def expressionEnds : List String := [")", "]"]

/-- An operator: how tightly it binds, how many marks it has, and whether its right side may hold it again. -/
structure Operator where
  /-- How tightly it binds. -/
  power : Nat
  /-- The number of its marks. -/
  length : Nat
  /-- Whether it groups to the right. -/
  toRight : Bool
  /-- Whether it is a range, which needs no right side. -/
  range : Bool

/-- The operators; of those that come, the first counts. -/
def operators : List (String × Operator) :=
  let left (s : String) (power : Nat) : String × Operator := (s, ⟨power, s.length, false, false⟩)
  let right (s : String) : String × Operator := (s, ⟨1, s.length, true, false⟩)
  [left "||" 3, right "|=", left "|" 6, right ">>=", left ">>" 9, left ">=" 5, left ">" 5, left "==" 5,
   left "<=" 5, right "<<=", left "<<" 9, left "<" 5, right "+=", left "+" 10, right "^=", left "^" 7,
   right "%=", left "%" 11, right "&=", left "&&" 4, left "&" 8, right "/=", left "/" 11, right "*=",
   left "*" 11, ("..=", ⟨2, 3, false, true⟩), ("..", ⟨2, 2, false, true⟩), left "!=" 5, right "-=",
   left "-" 10]

/-- The operator that comes. -/
def operatorNext (ts : List Token) : Option Operator :=
  if Next.op "=>" ts then none
  else match operators.find? fun o => Next.op o.1 ts with
    | some o => some o.2
    | none => if Next.is "=" ts then some ⟨1, 1, true, false⟩ else none

/-- Whether the right side of a range comes. -/
def rangeSide (r : Restriction) (ts : List Token) : Bool :=
  Next.expression ts && !(r.noRecords && Next.is "\x7b" ts)

/-- The arguments of a call. -/
def callArguments (g : Rules) : Reader Unit :=
  delimited "(" ")" "," (fun ts => Next.expression ts || Next.is "#" ts) g.anyExpression

/-- A field of a record that is built. -/
def builtField (g : Rules) : Reader Unit := do
  attributes g
  let named : List Token → Bool := fun ts => Next.name ts || Next.kind .integer ts
  ifNext (fun ts => named ts && Next.after 1 (Next.op "::") ts) (do let _ ← g.anyExpression)
    (ifNext (fun ts => named ts && Next.after 1 (Next.op "..") ts) bump
      (ifNext (fun ts => named ts && Next.after 1 (Next.oneOf [":", "="]) ts)
        (do
          bumps 2
          let _ ← g.anyExpression)
        (ifNext named (do let _ ← g.anyExpression)
          (ifNext (Next.op "..")
            (do
              bumps 2
              whenNext (fun ts => !Next.is "\x7d" ts) do
                let _ ← g.anyExpression
                let _ ← eat ",")
            (ifNext (Next.is "\x7b") (misplacedBlock g) bump)))))

/-- The fields of a record that is built. -/
def builtFields (g : Rules) : Reader Unit := do
  bump
  Reader.whileNext (fun ts => !Next.nothing ts && !Next.is "\x7d" ts) do
    builtField g
    whenNext (fun ts => !Next.is "\x7d" ts) (expect ",")
    pure true
  expect "\x7d"

/-- A path in an expression, with what may follow it. Tells whether it ends with a block. -/
def pathExpression (g : Rules) (r : Restriction) : Reader Bool := do
  path g .valued
  ifNext (fun ts => Next.is "\x7b" ts && !r.noRecords) (do builtFields g; pure false)
    (ifNext (fun ts => Next.is "!" ts && !Next.op "!=" ts) (macroBody g) (pure false))

/-- The expressions in parentheses. -/
def tupleExpression (g : Rules) : Reader Unit := do
  bump
  let _ ← eat ","
  Reader.whileNext (fun ts => !Next.nothing ts && !Next.is ")" ts) do
    if ← g.anyExpression then
      whenNext (fun ts => !Next.is ")" ts) (expect ",")
      pure true
    else pure false
  expect ")"

/-- The entries of an array, after the first one or not, and after a semicolon or not. -/
def arrayEntries (g : Rules) : Nat → Bool → Bool → Reader Unit
  | 0, _, _ => nothing
  | fuel + 1, first, repeated =>
    whenNext (fun ts => !Next.nothing ts && !Next.is "]" ts) do
      if ← g.anyExpression then
        if ← (if first then eat ";" else pure false) then arrayEntries g fuel false true
        else if repeated then nothing
        else ifNext (Next.is "]") nothing do
          if ← eat "," then arrayEntries g fuel false false

/-- An array. -/
def arrayExpression (g : Rules) : Reader Unit := do
  bump
  (fun ts => arrayEntries g (ts.length + 1) true false ts)
  expect "]"

/-- A closure. -/
def closure (g : Rules) : Reader Unit := do
  whenNext (Next.is "for") (forBinder g)
  let _ ← eat "const"
  let _ ← eat "static"
  let _ ← eat "async"
  let _ ← eat "move"
  whenNext (Next.is "|") do
    params g .closure "|" "|"
    if ← returned g then block g
    else whenNext Next.expression (do let _ ← g.anyExpression)

/-- A condition with its blocks. -/
def condition (g : Rules) : Nat → Reader Unit
  | 0 => nothing
  | fuel + 1 => do
    bump
    g.headExpression
    block g
    if ← eat "else" then
      ifNext (Next.is "if") (condition g fuel) (block g)

/-- An arm of a match. -/
def matchArm (g : Rules) : Reader Unit := do
  attributes g
  g.pattern true
  whenNext (Next.is "if") do
    bump
    let _ ← g.anyExpression
  let _ ← eatOp "=>"
  let _ ← g.expression ⟨false, true⟩ 1
  let _ ← eat ","

/-- The arms of a match. -/
def matchArms (g : Rules) : Reader Unit := do
  bump
  innerAttributes g
  Reader.whileNext (fun ts => !Next.nothing ts && !Next.is "\x7d" ts) do
    ifNext (Next.is "\x7b") (misplacedBlock g) (matchArm g)
    pure true
  expect "\x7d"

/-- A loop over a sequence. -/
def forLoop (g : Rules) : Reader Unit := do
  bump
  g.pattern true
  expect "in"
  g.headExpression
  block g

/-- A loop with a condition. -/
def whileLoop (g : Rules) : Reader Unit := do
  bump
  g.headExpression
  block g

/-- An expression that may follow a word. -/
def operand (g : Rules) : Reader Unit := whenNext Next.expression (do let _ ← g.anyExpression)

/-- A block with a word in front. -/
def wordBlock (g : Rules) : Reader Unit := do
  bump
  block g

/-- An expression with a label. Tells whether it ends with a block. -/
def labeled (g : Rules) : Reader (Option Bool) := do
  bumps 2
  ifNext (Next.is "loop") (do wordBlock g; pure (some true))
    (ifNext (Next.is "for") (do forLoop g; pure (some true))
      (ifNext (Next.is "while") (do whileLoop g; pure (some true))
        (ifNext (Next.is "\x7b") (do block g; pure (some true)) (pure none))))

/-- Whether a block with one word in front comes. -/
def blockAfterWord (words : List String) (ts : List Token) : Bool :=
  Next.oneOf words ts && Next.after 1 (Next.is "\x7b") ts

/-- An expression without operators around it. Tells whether there was one, and whether it ends with a
block. -/
def atom (g : Rules) (r : Restriction) : Reader (Option Bool) :=
  let plain (p : Reader Unit) : Reader (Option Bool) := do p; pure (some false)
  let withBlock (p : Reader Unit) : Reader (Option Bool) := do p; pure (some true)
  ifNext Next.literal (plain bump)
    (ifNext Next.path (do pure (some (← pathExpression g r)))
      (ifNext (Next.is "(") (plain (tupleExpression g))
        (ifNext (Next.is "[") (plain (arrayExpression g))
          (ifNext (Next.is "if") (withBlock fun ts => condition g (ts.length + 1) ts)
            (ifNext (Next.is "let")
              (plain do
                bump
                g.pattern true
                expect "="
                let _ ← g.expression ⟨true, false⟩ 5)
              (ifNext (Next.is "_") (plain bump)
                (ifNext (Next.is "loop") (withBlock (wordBlock g))
                  (ifNext (Next.is "while") (withBlock (whileLoop g))
                    (ifNext (Next.is "match")
                      (withBlock do
                        bump
                        g.headExpression
                        whenNext (Next.is "\x7b") (matchArms g))
                      (rest plain withBlock))))))))))
where
  /-- The forms that begin with other words. -/
  rest (plain withBlock : Reader Unit → Reader (Option Bool)) : Reader (Option Bool) :=
    ifNext (Next.is "try") (withBlock (wordBlock g))
      (ifNext (Next.oneOf ["return", "become", "yield", "box"]) (plain do bump; operand g)
        (ifNext (fun ts => Next.is "do" ts && Next.after 1 (Next.is "yeet") ts) (plain do bumps 2; operand g)
          (ifNext (Next.is "continue") (plain do bump; whenNext (Next.kind .lifetime) bump)
            (ifNext (Next.is "break")
              (plain do
                bump
                whenNext (Next.kind .lifetime) bump
                whenNext (rangeSide r) (do let _ ← g.anyExpression))
              (ifNext (fun ts => Next.kind .lifetime ts && Next.after 1 (Next.is ":") ts) (labeled g)
                (ifNext (blockAfterWord ["const", "unsafe", "async"]) (withBlock (wordBlock g))
                  (ifNext
                    (fun ts => Next.is "async" ts && Next.after 1 (blockAfterWord ["move"]) ts)
                    (withBlock do bump; wordBlock g)
                    (ifNext (Next.is "\x7b") (withBlock (block g))
                      (ifNext
                        (fun ts => Next.oneOf ["const", "static", "async", "move", "|"] ts ||
                          Next.is "for" ts && Next.after 1 (Next.is "<") ts)
                        (plain (closure g))
                        (ifNext (Next.is "for") (withBlock (forLoop g))
                          (do
                            bump
                            pure none)))))))))))

/-- What follows a dot. Tells whether the dot belonged to the expression. -/
def afterDot (g : Rules) : Reader Bool :=
  ifNext
    (fun ts => Next.after 1 segmentNext ts &&
      (Next.after 2 (Next.is "(") ts || Next.after 2 (Next.op "::") ts))
    (do
      bumps 2
      arguments g .valued
      whenNext (Next.is "(") (callArguments g)
      pure true)
    (ifNext (Next.after 1 (Next.is "await")) (do bumps 2; pure true)
      (ifNext (Next.op "..") (pure false)
        (do
          bump
          whenNext (fun ts => segmentNext ts || Next.kind .integer ts || Next.kind .decimal ts) bump
          pure true)))

/-- Calls, indices and fields after an expression. Tells whether there were any. -/
def postfixes (g : Rules) : Nat → Bool → Bool → Reader Bool
  | 0, _, any => pure any
  | fuel + 1, calls, any =>
    ifNext (fun ts => calls && Next.is "(" ts) (do callArguments g; postfixes g fuel true true)
      (ifNext (fun ts => calls && Next.is "[" ts)
        (do
          bump
          let _ ← g.anyExpression
          expect "]"
          postfixes g fuel true true)
        (ifNext (Next.is ".")
          (do
            if ← afterDot g then postfixes g fuel true true else pure any)
          (ifNext (Next.is "?") (do bump; postfixes g fuel true true) (pure any))))

/-- An expression without operators between two others. -/
def lefthand (g : Rules) (r : Restriction) : Reader (Option Bool) :=
  ifNext (Next.is "&")
    (do
      bump
      ifNext
        (fun ts => Next.is "raw" ts && Next.after 1 (Next.oneOf ["mut", "const"]) ts) (bumps 2)
        (do let _ ← eat "mut")
      let _ ← g.expression r 255
      pure (some false))
    (ifNext (Next.oneOf ["*", "!", "-"]) (do bump; let _ ← g.expression r 255; pure (some false))
      (ifNext (Next.op "..")
        (do
          let _ ← (do if ← eatOp "..=" then pure true else eatOp "..")
          whenNext (rangeSide r) (do let _ ← g.expression r 2)
          pure (some false))
        (do
          match ← atom g r with
          | none => pure none
          | some ends =>
            -- a statement that ends with a block is not called or indexed
            let more ← fun ts => postfixes g (ts.length + 1) (!(r.statement && ends)) false ts
            pure (some (ends && !more)))))

/-- The operators after an expression, with their right sides. -/
def climb (g : Rules) (r : Restriction) (power : Nat) : Nat → Reader Unit
  | 0 => nothing
  | fuel + 1 =>
    ifNext (fun ts => Next.is "as" ts && decide (power ≤ 12)) (do bump; g.plainType; climb g r power fuel)
      (fun ts =>
        match operatorNext ts with
        | none => ⟨(), ts, []⟩
        | some o =>
          -- a weaker operator is left to what is around
          if o.power < power then ⟨(), ts, []⟩
          else
            (do
              bumps o.length
              ifNext (fun ts => o.range && !rangeSide r ts) nothing do
                let _ ← g.expression ⟨r.noRecords, false⟩ (if o.toRight then o.power else o.power + 1)
                climb g r power fuel) ts)

/-- **An expression.** -/
def expressionOf (g : Rules) (r : Restriction) (power : Nat) : Reader (Option Bool) := do
  attributes g
  ifNext Next.expression
    (do
      match ← lefthand g r with
      | none => pure none
      | some ends =>
        -- an operator here would begin the next statement
        if r.statement && ends then pure (some true)
        else
          (fun ts => climb g r power (ts.length + 1) ts)
          pure (some false))
    (do
      recover expressionEnds
      pure none)

end RouteContracts.Companion.Rule
