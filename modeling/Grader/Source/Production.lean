/-!
The names of the rules of Python's grammar, by what they describe: statements, expressions,
patterns, and faults, which describe programs that are wrong in a way worth explaining.
-/

namespace Grader.Source

inductive StatementRule where
  | file | statements | statement | simpleStmts | simpleStmt | compoundStmt
  | assignment | annotatedRhs | augAssign
  | returnStmt | raiseStmt | globalStmt | nonlocalStmt | delStmt | assertStmt
  | importStmt | importName | importFrom | importTargets | importAsNames | importAsName
  | dottedAsNames | dottedAsName | moduleName
  | block | decorators | classDef | classDefRaw | functionDef | functionDefRaw
  | params | parameters | slashNoDefault | slashWithDefault | starEtc | kwds
  | paramNoDefault | paramStarHint | paramWithDefault | paramMaybeDefault | param
  | typeHint | defaultValue
  | ifStmt | elifStmt | elseBlock | whileStmt | forStmt | withStmt | withItem
  | tryStmt | exceptBlock | exceptStarBlock | finallyBlock
  | matchStmt | subjectExpr | caseBlock | caseGuard
  deriving DecidableEq

inductive ExpressionRule where
  | evaluated | embedded
  | expressions | expression | yieldExpr | starExpressions | starExpression
  | starNamedExpressions | starNamedExpression | assignmentExpression | namedExpression
  | disjunction | conjunction | inversion | comparison | comparePair
  | bitwiseOr | bitwiseXor | bitwiseAnd | shiftExpr | sum | term | factor | power
  | awaitPrimary | primary | slices | slice | atom | groupExpr | strings
  | lambdef | lambdaParams | lambdaParameters | lambdaSlashNoDefault | lambdaSlashWithDefault
  | lambdaStarEtc | lambdaKwds | lambdaParamNoDefault | lambdaParamWithDefault
  | lambdaParamMaybeDefault | lambdaParam
  | listDisplay | tupleDisplay | setDisplay | dictDisplay | starredPairs | starredPair | pair
  | forIfClauses | forIfClause | listComp | setComp | genExp | dictComp
  | arguments | args | kwargs | starredExpression | kwargOrStarred | kwargOrDoubleStarred
  | starTargets | starTargetsListSeq | starTargetsTupleSeq | starTarget | targetWithStarAtom
  | starAtom | singleTarget | singleSubscriptTarget | targetPrimary | targetLookahead
  | delTargets | delTarget | delTargetAtom
  deriving DecidableEq

inductive PatternRule where
  | patterns | pattern | asPattern | orPattern | closedPattern | literalPattern | literalExpr
  | complexNumber | signedNumber | signedRealNumber | realNumber | imaginaryNumber
  | captureTarget | wildcardPattern | valuePattern | attr | nameOrAttr | groupPattern
  | sequencePattern | openSequencePattern | maybeSequencePattern | maybeStarPattern | starPattern
  | mappingPattern | itemsPattern | keyValuePattern | doubleStarPattern | classPattern
  | positionalPatterns | keywordPatterns | keywordPattern
  deriving DecidableEq

inductive FaultRule where
  | arguments | kwarg | expressionUnexplained | legacyExpression | expression | namedExpression
  | assignment | hintTarget | delStmt | block | comprehension | dictComprehension
  | parameters | parametersHelper | defaultValue | starEtc | kwds
  | lambdaParameters | lambdaParametersHelper | lambdaStarEtc | lambdaKwds
  | withItem | forTarget | group | importTargets | withStmt | withStmtIndent
  | tryStmt | exceptStmt | finallyStmt | exceptStmtIndent | exceptStarStmtIndent
  | matchStmt | caseBlock | asPattern | classPattern | classArgumentPattern
  | ifStmt | elifStmt | elseStmt | whileStmt | forStmt | defRaw | classDefRaw
  | starredPairs | pair
  deriving DecidableEq

/-- The names of all rules. -/
inductive Production where
  | statement (r : StatementRule)
  | expression (r : ExpressionRule)
  | pattern (r : PatternRule)
  | fault (r : FaultRule)
  deriving DecidableEq

/-- A number that tells the rules apart. -/
def Production.number : Production → Nat
  | statement r => r.ctorIdx
  | expression r => 256 + r.ctorIdx
  | pattern r => 512 + r.ctorIdx
  | fault r => 768 + r.ctorIdx

end Grader.Source
