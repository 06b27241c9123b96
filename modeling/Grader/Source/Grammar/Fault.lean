import Grader.Source.Build

/-!
The grammar of faults: programs that are wrong in a way that a complaint can name. Its rules match
what was written and complain of it.
-/

namespace Grader.Source.Grammar

open Build StatementRule ExpressionRule PatternRule

/-- The bracket that opens a list, a tuple or a set. -/
def anyOpening : E := oneOf ["[", "(", opening]

/-- The bracket that opens a list or a set. -/
def displayOpening : E := oneOf ["[", opening]

/-- The items of a with statement, without and with parentheses around them. -/
def withItems : List E := [.sep "," (seq [expression, .opt (seq ["as", starTarget] 1)] 0)]

def parenthesisedWithItems : List E :=
  ["(", .sep "," (seq [expressions, .opt (seq ["as", starTarget] 1)] 0), .opt ",", ")"]

def noColon (header : List E) : Peg.Alternative Production :=
  alt (header ++ [newline]) (complainHere "expected ':'")

/-- A header that no block follows; `i` is the item that starts it. -/
def noBlock (header : List E) (what : String) (i : Nat) : Peg.Alternative Production :=
  alt (header ++ ([":", newline, noIndent] : List E)) (missingBlock what i)

/-- What may mark a function or a statement as asynchronous. -/
def maybeAsync : E := .opt "async"

/-- The names that a handler binds. -/
def boundName : E := .opt (seq ["as", name] 1)

/-- Faults of parameter lists, by the rules of plain functions or of lambdas: a parameter without
a default, with one and with or without one, lists that end in a slash, the parameters in
parentheses, and what the complaint about parentheses says. -/
def parameterFaults (helper plain maybe slashPlain slashDefault inner : E) (who : String) :
    Peg.Body Production :=
  once [
    alt [.many plain, helper, plain]
      (complainAt 2 "non-default argument follows default argument"),
    alt [.many plain, "(", inner, .opt ",", ")"]
      (complainAt 1 s!"{who} parameters cannot be parenthesized"),
    alt ["/", ","] (complainAt 0 "at least one argument must precede /"),
    alt [oneOf [slashPlain, slashDefault], .many maybe, "/"]
      (complainAt 2 "/ may appear only once"),
    alt [.opt (oneOf [slashPlain, slashDefault]), .many maybe, "*", oneOf [",", plain],
        .many maybe, "/"]
      (complainAt 5 "/ must be ahead of *"),
    alt [.some maybe, "/", "*"] (complainAt 2 "expected comma between / and *")]

/-- Faults of the parameters from the first star on. -/
def starFaults (parameter plain maybe close : E) (bare : Peg.Build) : Peg.Body Production :=
  once [
    alt ["*", .group [just close, alt [",", oneOf [close, "**"]] (pick 0)]] bare,
    alt ["*", parameter, "="]
      (complainAt 2 "var-positional argument cannot have default value"),
    alt ["*", oneOf [plain, ","], .many maybe, "*", oneOf [plain, ","]]
      (complainAt 3 "* argument may appear only once")]

/-- Faults of the double starred parameter. -/
def doubleStarFaults (parameter : E) : Peg.Body Production :=
  once [
    alt ["**", parameter, "="]
      (complainAt 2 "var-keyword argument cannot have default value"),
    alt ["**", parameter, ",", parameter]
      (complainAt 3 "arguments cannot follow var-keyword argument"),
    alt ["**", parameter, ",", oneOf ["*", "**", "/"]]
      (complainAt 3 "arguments cannot follow var-keyword argument")]

/-- The complaint about an assignment where a comparison was meant. -/
def maybeComparison : String := "invalid syntax. Maybe you meant '==' or ':=' instead of '='?"

def faultBody : FaultRule → Peg.Body Production
  | .arguments => once [
      alt [args, ",", "*"]
        (complainAt 0 "iterable argument unpacking follows keyword argument unpacking"),
      alt [expression, forIfClauses, ",",
          .opt (.group [just args, alt [expression, forIfClauses] gather])]
        (complainAt 0 "Generator expression must be parenthesized"),
      alt [name, "=", expression, forIfClauses] (complainAt 0 maybeComparison),
      alt [args, forIfClauses] complainGenerator,
      alt [args, ",", expression, forIfClauses]
        (complainAt 2 "Generator expression must be parenthesized"),
      alt [args, ",", args] complainPositional]
  | .kwarg => once [
      alt [oneOf ["True", "False", "None"], "="] (fun s xs =>
        complainAt 0 s!"cannot assign to {(nth xs 0).name}" s xs),
      alt [name, "=", expression, forIfClauses] (complainAt 0 maybeComparison),
      alt [.absent (seq [name, "="] 0), expression, "="]
        (complainAt 1 "expression cannot contain assignment, perhaps you meant \"==\"?")]
  | .expressionUnexplained => once [
      alt [disjunction, "if", disjunction, "else", expression]
        (node .ifExp [(2, .test), (0, .body), (4, .orElse)]),
      just disjunction,
      just lambdef]
  | .legacyExpression => once [alt [name, .absent "(", starExpressions] complainLegacy]
  | .expression => once [
      alt [.absent (.group [alt [name, .kind .text] gather,
            just (oneOf [.soft "_", .soft "case", .soft "match"])]),
          disjunction, .quiet FaultRule.expressionUnexplained]
        complainSideBySide,
      alt [disjunction, "if", disjunction, .absent (oneOf ["else", ":"])]
        (complainAt 0 "expected 'else' after 'if' expression")]
  | .namedExpression => memo [
      alt [expression, ":=", expression] (fun s xs =>
        complainAt 0 s!"cannot use assignment expressions with {described (nth xs 0)}" s xs),
      alt [name, "=", bitwiseOr, .absent (oneOf ["=", ":="])] (complainAt 0 maybeComparison),
      alt [.absent (oneOf [listDisplay, tupleDisplay, genExp, "True", "None", "False"]),
          bitwiseOr, "=", bitwiseOr, .absent (oneOf ["=", ":="])]
        (fun s xs => complainAt 1 (s!"cannot assign to {described (nth xs 1)} here. " ++
          "Maybe you meant '==' instead of '='?") s xs)]
  | .assignment => once [
      alt [FaultRule.hintTarget, ":", expression] (fun s xs =>
        complainAt 0 s!"only single target (not {described (nth xs 0)}) can be annotated" s xs),
      alt [starNamedExpression, ",", .many starNamedExpressions, ":", expression]
        (complainAt 0 "only single target (not tuple) can be annotated"),
      alt [expression, ":", expression] (complainAt 0 "illegal target for annotation"),
      alt [.many (seq [starTargets, "="] 0), starExpressions, "="] (complainTarget .assigned 1),
      alt [.many (seq [starTargets, "="] 0), yieldExpr, "="]
        (complainAt 1 "assignment to yield expression not possible"),
      alt [starExpressions, augAssign, oneOf [yieldExpr, starExpressions]] (fun s xs =>
        complainAt 0
          s!"'{described (nth xs 0)}' is an illegal expression for augmented assignment" s xs)]
  | .hintTarget => once [
      just listDisplay,
      just tupleDisplay,
      alt ["(", FaultRule.hintTarget, ")"] (pick 1)]
  | .delStmt => once [alt ["del", starExpressions] (complainTarget .deleted 1)]
  | .block => once [alt [newline, noIndent] (complainHere "expected an indented block")]
  | .comprehension => once [
      alt [anyOpening, starredExpression, forIfClauses]
        (complainAt 1 "iterable unpacking cannot be used in comprehension"),
      alt [displayOpening, starNamedExpression, ",", starNamedExpressions, forIfClauses]
        (complainAt 1 "did you forget parentheses around the comprehension target?"),
      alt [displayOpening, starNamedExpression, ",", forIfClauses]
        (complainAt 1 "did you forget parentheses around the comprehension target?")]
  | .dictComprehension => once [
      alt [opening, "**", bitwiseOr, forIfClauses, closing]
        (complainAt 1 "dict unpacking cannot be used in dict comprehension")]
  | .parameters => parameterFaults FaultRule.parametersHelper paramNoDefault paramMaybeDefault
      slashNoDefault slashWithDefault (.some paramNoDefault) "Function"
  | .parametersHelper => once [just slashWithDefault, just (.some paramWithDefault)]
  | .defaultValue => once [
      alt ["=", .ahead (oneOf [")", ","])] (complainAt 0 "expected default value expression")]
  | .starEtc => starFaults StatementRule.param paramNoDefault paramMaybeDefault ")"
      (complainAt 0 "named arguments must follow bare *")
  | .kwds => doubleStarFaults StatementRule.param
  | .lambdaParameters => parameterFaults FaultRule.lambdaParametersHelper lambdaParamNoDefault
      lambdaParamMaybeDefault lambdaSlashNoDefault lambdaSlashWithDefault (.sep "," lambdaParam)
      "Lambda expression"
  | .lambdaParametersHelper => once [
      just lambdaSlashWithDefault,
      just (.some lambdaParamWithDefault)]
  | .lambdaStarEtc => starFaults lambdaParam lambdaParamNoDefault lambdaParamMaybeDefault ":"
      (complainHere "named arguments must follow bare *")
  | .lambdaKwds => doubleStarFaults lambdaParam
  | .withItem => once [
      alt [expression, "as", expression, .ahead (oneOf [",", ")", ":"])]
        (complainTarget .assigned 2)]
  | .forTarget => once [alt [maybeAsync, "for", starExpressions] (complainTarget .iterated 2)]
  | .group => once [
      alt ["(", starredExpression, ")"] (complainAt 1 "cannot use starred expression here"),
      alt ["(", "**", expression, ")"]
        (complainAt 1 "cannot use double starred expression here")]
  | .importTargets => once [
      alt [importAsNames, ",", newline]
        (complainHere "trailing comma not allowed without surrounding parentheses")]
  | .withStmt => once [
      noColon ([maybeAsync, "with"] ++ withItems),
      noColon ([maybeAsync, "with"] ++ parenthesisedWithItems)]
  | .withStmtIndent => once [
      noBlock ([maybeAsync, "with"] ++ withItems) "'with' statement" 1,
      noBlock ([maybeAsync, "with"] ++ parenthesisedWithItems) "'with' statement" 1]
  | .tryStmt => once [
      noBlock ["try"] "'try' statement" 0,
      alt ["try", ":", block, .absent (oneOf ["except", "finally"])]
        (complainHere "expected 'except' or 'finally' block"),
      alt ["try", ":", .many block, .some exceptBlock, "except", "*", expression, boundName, ":"]
        (complainAt 4 "cannot have both 'except' and 'except*' on the same 'try'"),
      alt ["try", ":", .many block, .some exceptStarBlock, "except",
          .opt (seq [expression, boundName] 0), ":"]
        (complainAt 4 "cannot have both 'except' and 'except*' on the same 'try'")]
  | .exceptStmt => once [
      alt ["except", .opt "*", expression, ",", expressions, boundName, ":"]
        (complainAt 2 "multiple exception types must be parenthesized"),
      noColon ["except", .opt "*", expression, boundName],
      noColon ["except"],
      alt ["except", "*", oneOf [newline, ":"]]
        (complainHere "expected one or more exception types")]
  | .finallyStmt => once [noBlock ["finally"] "'finally' statement" 0]
  | .exceptStmtIndent => once [
      noBlock ["except", expression, boundName] "'except' statement" 0,
      noBlock ["except"] "'except' statement" 0]
  | .exceptStarStmtIndent => once [
      noBlock ["except", "*", expression, boundName] "'except*' statement" 0]
  | .matchStmt => once [
      noColon [.soft "match", subjectExpr],
      noBlock [.soft "match", subjectExpr] "'match' statement" 0]
  | .caseBlock => once [
      noColon [.soft "case", patterns, .opt caseGuard],
      noBlock [.soft "case", patterns, .opt caseGuard] "'case' statement" 0]
  | .asPattern => once [
      alt [orPattern, "as", .soft "_"] (complainAt 2 "cannot use '_' as a target"),
      alt [orPattern, "as", .absent name, expression] (complainAt 3 "invalid pattern target")]
  | .classPattern => once [
      alt [nameOrAttr, "(", FaultRule.classArgumentPattern]
        (complainAt 2 "positional patterns follow keyword patterns")]
  | .classArgumentPattern => once [
      alt [.opt (seq [positionalPatterns, ","] 0), keywordPatterns, ",", positionalPatterns]
        (pick 3)]
  | .ifStmt => once [
      noColon ["if", ExpressionRule.namedExpression],
      noBlock ["if", ExpressionRule.namedExpression] "'if' statement" 0]
  | .elifStmt => once [
      noColon ["elif", ExpressionRule.namedExpression],
      noBlock ["elif", ExpressionRule.namedExpression] "'elif' statement" 0]
  | .elseStmt => once [noBlock ["else"] "'else' statement" 0]
  | .whileStmt => once [
      noColon ["while", ExpressionRule.namedExpression],
      noBlock ["while", ExpressionRule.namedExpression] "'while' statement" 0]
  | .forStmt => once [
      noColon [maybeAsync, "for", starTargets, "in", starExpressions],
      noBlock [maybeAsync, "for", starTargets, "in", starExpressions] "'for' statement" 1]
  | .defRaw => once [
      noBlock [maybeAsync, "def", name, "(", .opt params, ")", .opt (seq ["->", expression] 1)]
        "function definition" 1]
  | .classDefRaw => once [
      noColon ["class", name, .opt (seq ["(", .opt ExpressionRule.arguments, ")"] 1)],
      noBlock ["class", name, .opt (seq ["(", .opt ExpressionRule.arguments, ")"] 1)]
        "class definition" 0]
  | .starredPairs => once [
      alt [.sep "," starredPair, ",", FaultRule.pair] (pick 2),
      alt [expression, ":", "*", bitwiseOr]
        (complainAt 2 "cannot use a starred expression in a dictionary value"),
      alt [expression, ":", .ahead (oneOf [closing, ","])]
        (complainAt 1 "expression expected after dictionary key and ':'")]
  | .pair => once [
      alt [expression, .absent ":"] complainKey,
      alt [expression, ":", "*", bitwiseOr]
        (complainAt 2 "cannot use a starred expression in a dictionary value"),
      alt [expression, ":", .ahead (oneOf [closing, ","])]
        (complainAt 1 "expression expected after dictionary key and ':'")]

end Grader.Source.Grammar
