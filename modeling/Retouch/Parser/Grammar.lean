import Retouch.Parser.Basic

/-!
# The grammar

One function per nonterminal. Statements, expressions and class bodies contain each other, so all of
them recurse on one bound on the depth of the derivation, which `parseTokens` takes large enough
that the number of tokens is used up first.
-/

namespace Retouch.Parser

/-- The modifiers in front of a declaration. An annotation behind a modifier is refused. -/
def modifierList : Nat → Parse (List Modifier)
  | 0 => tooDeep
  | n + 1 => do
    let s ← get
    if s.is "@" && !s.isAt 1 "interface" then
      refuse .annotationFirst
    else if s.peek.kind == .identifier && modifierWords.contains s.peek.text &&
        !(s.is "default" && s.isAt 1 ":") then
      let (space, token) ← next
      let modifier := ⟨← fresh, space, token.text⟩
      return modifier :: (← modifierList n)
    else return []

/-- The annotations and modifiers of a declaration, and the trivia in front of it. -/
structure Heading where
  leading : Space
  annotations : List Annotation
  modifiers : List Modifier

/-- One variable as a declaration of its own. -/
def declareOne (h : Heading) (declaredType : Option TypeTree) (varargs : Option Space)
    (v : NamedVariable) : Parse VariableDeclarations :=
  return ⟨← fresh, h.leading, h.annotations, h.modifiers, declaredType, varargs, [.tight v]⟩

mutual

def annotationList : Nat → Parse (List Annotation)
  | 0 => tooDeep
  | n + 1 => do
    if ← ask fun s => s.is "@" && !s.isAt 1 "interface" then
      let first ← annotation n
      return first :: (← annotationList n)
    return []

def heading : Nat → Parse Heading
  | 0 => tooDeep
  | n + 1 => do
    let space ← leading
    let annotations ← annotationList n
    let modifiers ← modifierList n
    return ⟨space, annotations, modifiers⟩

def annotation : Nat → Parse Annotation
  | 0 => tooDeep
  | n + 1 => do
    let space ← expect "@"
    let name ← qualifiedName n
    let arguments ←
      if ← is "(" then pure (some (← container "(" ")" (annotationArgument n) n)) else pure none
    return ⟨← fresh, space, name, arguments⟩

/-- A value, or a name, `=` and a value. -/
def annotationArgument : Nat → Parse Expression
  | 0 => tooDeep
  | n + 1 => do
    if ← ask fun s => s.isNameAt 0 && s.isAt 1 "=" then
      let (space, target) := hoist (.identifier (← ident))
      let before ← expect "="
      let value ← elementValue n
      return .assignment (← fresh) space target before .assign value .unknown
    elementValue n

def elementValue : Nat → Parse Expression
  | 0 => tooDeep
  | n + 1 => do
    let s ← get
    if s.is "\x7b" then
      let space ← leading
      let elements ← container "\x7b" "\x7d" (elementValue n) n
      return .newArray (← fresh) space none [] (some elements) .unknown
    else if s.is "@" then
      refuse .unnestedAnnotations
    else ternary n

def classDeclaration (h : Heading) : Nat → Parse ClassDeclaration
  | 0 => tooDeep
  | n + 1 => do
    let (keywordLeading, token) ← next
    let keyword ← match token.text with
      | "class" => pure ClassKeyword.clazz
      | "interface" => pure .interface
      | _ => refuse .classKeyword
    let name ← ident
    if ← is "<" then
      refuse .plainDeclaration
    let extended ← is "extends"
    let superclass ←
      if extended && keyword == .clazz then
        let before ← expect "extends"
        pure (some ⟨before, ← typeTree n⟩)
      else pure none
    let interfaces ←
      if extended && keyword == .interface then
        pure (some (← keywordList "extends" (typeTree n) n))
      else if keyword == .clazz && (← is "implements") then
        pure (some (← keywordList "implements" (typeTree n) n))
      else pure none
    let body ← classBody n
    return ⟨← fresh, h.leading, h.annotations, h.modifiers, keywordLeading, keyword, name, superclass,
      interfaces, body, none⟩

def classBody : Nat → Parse Block
  | 0 => tooDeep
  | n + 1 => do
    let space ← expect "\x7b"
    let statements ← members n
    let close ← expect "\x7d"
    return ⟨← fresh, space, statements, close⟩

def members : Nat → Parse (List (Padded Statement))
  | 0 => tooDeep
  | n + 1 => do
    let s ← get
    if s.is "\x7d" then return []
    if s.atEnd then
      refuse (.mark "\x7d")
    if s.is ";" then
      let space ← expect ";"
      let first := .tight (.empty (← fresh) space)
      return first :: (← members n)
    let first ← member n
    return first :: (← members n)

def member : Nat → Parse (Padded Statement)
  | 0 => tooDeep
  | n + 1 => do
    let h ← heading n
    let s ← get
    if s.is "class" || s.is "interface" then
      return .tight (.classDeclaration (← classDeclaration h n))
    if ["\x7b", "<", "enum", "@", "record"].any s.is then
      refuse .member
    if s.isNameAt 0 && s.isAt 1 "(" then
      methodDeclaration h none n
    else
      let type ← typeTree n
      if ← ask fun s => s.isNameAt 0 && s.isAt 1 "(" then
        methodDeclaration h (some type) n
      else
        let declarators ← declarators n
        let after ← expect ";"
        return ⟨.declaration ⟨← fresh, h.leading, h.annotations, h.modifiers, some type, none,
          declarators⟩, after⟩

def methodDeclaration (h : Heading) (returnType : Option TypeTree) : Nat → Parse (Padded Statement)
  | 0 => tooDeep
  | n + 1 => do
    let name ← ident
    let parameters ← container "(" ")" (formalParameter n) n
    let throwing ←
      if ← is "throws" then pure (some (← keywordList "throws" (typeTree n) n)) else pure none
    let (body, after) ←
      if ← is "\x7b" then pure (some (← block n), Space.empty) else pure (none, ← expect ";")
    return ⟨.method ⟨← fresh, h.leading, h.annotations, h.modifiers, returnType, name, parameters,
      throwing, body, none⟩, after⟩

def formalParameter : Nat → Parse VariableDeclarations
  | 0 => tooDeep
  | n + 1 => do
    let h ← heading n
    let type ← typeTree n
    let varargs ← if ← is "..." then pure (some (← expect "...")) else pure none
    let v ← namedVariable false n
    declareOne h (some type) varargs v

def namedVariable (withInitializer : Bool) : Nat → Parse NamedVariable
  | 0 => tooDeep
  | n + 1 => do
    let space ← leading
    let name ← ident
    if ← is "[" then
      refuse .plainVariable
    let initializer ←
      if withInitializer && (← is "=") then
        let before ← expect "="
        pure (some ⟨before, ← variableInitializer n⟩)
      else pure none
    return ⟨← fresh, space, name, initializer, .unknown⟩

def variableInitializer : Nat → Parse Expression
  | 0 => tooDeep
  | n + 1 => do
    if ← is "\x7b" then arrayInitializer n else expression n

def arrayInitializer : Nat → Parse Expression
  | 0 => tooDeep
  | n + 1 => do
    let space ← leading
    let elements ← container "\x7b" "\x7d" (variableInitializer n) n
    return .newArray (← fresh) space none [] (some elements) .unknown

def declarators : Nat → Parse (List (Padded NamedVariable))
  | 0 => tooDeep
  | n + 1 => commaSeparated (namedVariable true n) n

def localVariables : Nat → Parse VariableDeclarations
  | 0 => tooDeep
  | n + 1 => do
    let h ← heading n
    let type ← typeTree n
    let declarators ← declarators n
    return ⟨← fresh, h.leading, h.annotations, h.modifiers, some type, none, declarators⟩

def block : Nat → Parse Block
  | 0 => tooDeep
  | n + 1 => do
    let space ← expect "\x7b"
    let statements ← blockStatements n
    let close ← expect "\x7d"
    return ⟨← fresh, space, statements, close⟩

def blockStatements : Nat → Parse (List (Padded Statement))
  | 0 => tooDeep
  | n + 1 => do
    let s ← get
    if s.is "\x7d" then return []
    if s.atEnd then
      refuse (.mark "\x7d")
    let first ← blockStatement n
    return first :: (← blockStatements n)

def blockStatement : Nat → Parse (Padded Statement)
  | 0 => tooDeep
  | n + 1 => do
    let s ← get
    if s.is "\x7b" then
      return .tight (.block (← block n))
    else if s.is ";" then
      let space ← expect ";"
      return .tight (.empty (← fresh) space)
    else if s.is "return" then
      let space ← expect "return"
      let value ← if ← is ";" then pure none else pure (some (← expression n))
      let after ← expect ";"
      return ⟨.returns (← fresh) space value, after⟩
    else if s.is "throw" then
      let space ← expect "throw"
      let exception ← expression n
      let after ← expect ";"
      return ⟨.throws (← fresh) space exception, after⟩
    else if s.is "if" then
      ifStatement n
    else if s.is "while" then
      let space ← expect "while"
      let condition ← parenthesized n
      let body ← blockStatement n
      return .tight (.whileLoop (← fresh) space condition body)
    else if s.is "for" then
      forStatement n
    else if s.is "try" then
      tryStatement n
    else if s.is "do" then
      let space ← expect "do"
      let body ← blockStatement n
      let whileLeading ← expect "while"
      let condition ← parenthesized n
      let after ← expect ";"
      return ⟨.doWhile (← fresh) space body whileLeading condition, after⟩
    else if s.is "switch" then
      switchStatement n
    else if s.is "break" || s.is "continue" then
      let (space, token) ← next
      let label ← if ← ask (·.isNameAt 0) then pure (some (← ident)) else pure none
      let after ← expect ";"
      let id ← fresh
      return ⟨if token.text == "break" then .breaks id space label else .continues id space label,
        after⟩
    else if s.is "class" || ((s.is "final" || s.is "abstract") && s.isAt 1 "class") then
      let h ← heading n
      return .tight (.classDeclaration (← classDeclaration h n))
    else if s.is "final" || s.is "@" || declaresVariable n s then
      let declarations ← localVariables n
      let after ← expect ";"
      return ⟨.declaration declarations, after⟩
    else
      let e ← expression n
      let after ← expect ";"
      return ⟨.expression e, after⟩

def parenthesized : Nat → Parse Parenthesized
  | 0 => tooDeep
  | n + 1 => do
    let opening ← expect "("
    let tree ← expression n
    let closing ← expect ")"
    return ⟨opening, tree, closing⟩

def ifStatement : Nat → Parse (Padded Statement)
  | 0 => tooDeep
  | n + 1 => do
    let space ← expect "if"
    let condition ← parenthesized n
    let whenTrue ← blockStatement n
    let whenFalse ←
      if ← is "else" then
        let before ← expect "else"
        let body ← blockStatement n
        pure (some ⟨← fresh, before, body⟩)
      else pure none
    return .tight (.conditional (← fresh) space condition whenTrue whenFalse)

def forStatement : Nat → Parse (Padded Statement)
  | 0 => tooDeep
  | n + 1 => do
    let space ← expect "for"
    let opening ← expect "("
    let s ← get
    -- A heading, a type and a name in front of a colon: the loop runs over a collection.
    let each := (behind? (heading n) s).any fun s =>
      (behind? (typeTree n) s).any fun s => s.isNameAt 0 && s.isAt 1 ":"
    if each then
      let h ← heading n
      let type ← typeTree n
      let v ← namedVariable false n
      let colon ← expect ":"
      let iterable ← expression n
      let close ← expect ")"
      let body ← blockStatement n
      let binder ← declareOne h (some type) none v
      return .tight (.forEach (← fresh) space opening ⟨binder, colon⟩ ⟨iterable, close⟩ body)
    else
      let init ←
        if s.is ";" then pure none
        else if s.is "final" || declaresVariable n s then
          pure (some (.declaration (← localVariables n)))
        else pure (some (.expression (← expression n)))
      let afterInit ← expect ";"
      let condition ← if ← is ";" then pure none else pure (some (← expression n))
      let afterCondition ← expect ";"
      let update ← if ← is ")" then pure [] else commaSeparated (expression n) n
      let closing ← expect ")"
      let body ← blockStatement n
      return .tight (.forLoop (← fresh) space opening init afterInit condition afterCondition update
        closing body)

def switchStatement : Nat → Parse (Padded Statement)
  | 0 => tooDeep
  | n + 1 => do
    let space ← expect "switch"
    let selector ← parenthesized n
    let opening ← expect "\x7b"
    let cases ← switchCases n
    let closing ← expect "\x7d"
    return .tight (.switch (← fresh) space selector opening cases closing)

def switchCases : Nat → Parse (List Case)
  | 0 => tooDeep
  | n + 1 => do
    let s ← get
    if s.is "\x7d" then return []
    if s.atEnd then
      refuse (.mark "\x7d")
    let first ← switchCase n
    return first :: (← switchCases n)

def switchCase : Nat → Parse Case
  | 0 => tooDeep
  | n + 1 => do
    let s ← get
    let (space, labels) ←
      if s.is "default" then pure (← expect "default", [])
      else if s.is "case" then
        let space ← expect "case"
        -- A label is no lambda: its arrow belongs to the case.
        pure (space, ← commaSeparated (ternary n) n)
      else refuse .caseLabel
    if ← is "->" then
      let separator ← expect "->"
      let body ← blockStatement n
      return ⟨← fresh, space, labels, separator, .rule body⟩
    else
      let separator ← expect ":"
      let list ← caseStatements n
      return ⟨← fresh, space, labels, separator, .statements list⟩

def caseStatements : Nat → Parse (List (Padded Statement))
  | 0 => tooDeep
  | n + 1 => do
    let s ← get
    if s.is "case" || s.is "default" || s.is "\x7d" then return []
    if s.atEnd then
      refuse (.mark "\x7d")
    let first ← blockStatement n
    return first :: (← caseStatements n)

/-- The resources up to the closing parenthesis, and whether a semicolon ends the last one. -/
def resourceList : Nat → Parse (List (Padded Statement) × Bool)
  | 0 => tooDeep
  | n + 1 => do
    let s ← get
    if s.is ")" then return ([], true)
    let resource ←
      if s.is "final" || s.is "@" || declaresVariable n s then
        pure (.declaration (← localVariables n))
      else pure (.expression (← expression n))
    if ← is ";" then
      let after ← expect ";"
      let (rest, terminated) ← resourceList n
      return (⟨resource, after⟩ :: rest, terminated)
    return ([.tight resource], false)

def tryResources : Nat → Parse TryResources
  | 0 => tooDeep
  | n + 1 => do
    let opening ← expect "("
    let (resources, terminated) ← resourceList n
    if resources.isEmpty then
      refuse .resource
    let closing ← expect ")"
    return ⟨opening, resources, terminated, closing⟩

def tryStatement : Nat → Parse (Padded Statement)
  | 0 => tooDeep
  | n + 1 => do
    let space ← expect "try"
    let resources ← if ← is "(" then pure (some (← tryResources n)) else pure none
    let body ← block n
    let catches ← catchList n
    let finalizer ←
      if ← is "finally" then
        let before ← expect "finally"
        pure (some ⟨before, ← block n⟩)
      else pure none
    if resources.isNone && catches.isEmpty && finalizer.isNone then
      refuse .handler
    return .tight (.tryBlock (← fresh) space resources body catches finalizer)

def catchList : Nat → Parse (List Catch)
  | 0 => tooDeep
  | n + 1 => do
    if ← is "catch" then
      let space ← expect "catch"
      let opening ← expect "("
      let h ← heading n
      let type ← typeTree n
      if ← is "|" then
        refuse .singleCatch
      let v ← namedVariable false n
      let after ← expect ")"
      let body ← block n
      let parameter ← declareOne h (some type) none v
      let first := ⟨← fresh, space, opening, ⟨parameter, after⟩, body⟩
      return first :: (← catchList n)
    return []

def expression : Nat → Parse Expression
  | 0 => tooDeep
  | n + 1 => do
    if ← ask startsLambda then
      lambda n
    else
      let left ← ternary n
      let s ← get
      match if s.peek.kind == .punct then AssignOp.ofSpelling? s.peek.text else none with
      | none => return left
      | some op =>
        let (before, _) ← next
        let value ← expression n
        let (space, target) := hoist left
        return .assignment (← fresh) space target before op value .unknown

def lambda : Nat → Parse Expression
  | 0 => tooDeep
  | n + 1 => do
    let space ← leading
    let parenthesized ← is "("
    let parameters ←
      if parenthesized then container "(" ")" (lambdaParameter n) n
      else pure ⟨.empty, [.tight (← lambdaParameter n)], .empty⟩
    let arrow ← expect "->"
    let body ←
      if ← is "\x7b" then pure (LambdaBody.block (← block n))
      else pure (LambdaBody.expression (← expression n))
    return .lambda (← fresh) space parenthesized parameters arrow body .unknown

def lambdaParameter : Nat → Parse VariableDeclarations
  | 0 => tooDeep
  | n + 1 => do
    if ← ask fun s => s.isNameAt 0 && [",", ")", "->"].any (s.isAt 1) then
      let space ← leading
      let v ← namedVariable false n
      declareOne ⟨space, [], []⟩ none none v
    else formalParameter n

def ternary : Nat → Parse Expression
  | 0 => tooDeep
  | n + 1 => do
    let condition ← binary 1 n
    if ← is "?" then
      let question ← expect "?"
      let whenTrue ← expression n
      let colon ← expect ":"
      let whenFalse ← if ← ask startsLambda then lambda n else ternary n
      let (space, condition) := hoist condition
      return .ternary (← fresh) space condition ⟨question, whenTrue⟩ ⟨colon, whenFalse⟩ .unknown
    return condition

/-- Operators that bind at least as tight as `least`. -/
def binary (least : Nat) : Nat → Parse Expression
  | 0 => tooDeep
  | n + 1 => do
    let left ← unary n
    binaryRest least left n

def binaryRest (least : Nat) (left : Expression) : Nat → Parse Expression
  | 0 => tooDeep
  | n + 1 => do
    match (binaryOp? (← get)).filter fun (op, _) => least ≤ op.precedence with
    | none => return left
    | some (op, width) =>
      let before ← leading
      modify fun s => Nat.repeat State.bump width s
      let right ←
        if op == .instanceOf then
          match ← typeTree n with
          | .named name => pure name
          | _ => refuse .namedType
        else binary (op.precedence + 1) n
      let (space, left) := hoist left
      binaryRest least (.binary (← fresh) space left before op right .unknown) n

def unary : Nat → Parse Expression
  | 0 => tooDeep
  | n + 1 => do
    let s ← get
    match unaryOp? s with
    | some op =>
      let (space, _) ← next
      let operand ← unary n
      return .unary (← fresh) space .empty op operand .unknown
    | none =>
      if s.is "(" && isCast n s then
        let space ← expect "("
        let clazz ← typeTree n
        let after ← expect ")"
        let operand ← unary n
        return .typeCast (← fresh) space ⟨clazz, after⟩ operand .unknown
      else
        let target ← primary n
        selection target n

def primary : Nat → Parse Expression
  | 0 => tooDeep
  | n + 1 => do
    let s ← get
    let text := s.peek.text
    match s.peek.kind with
    | .int | .long | .float | .double | .char | .string => literal
    | .identifier =>
      if ["true", "false", "null"].contains text then
        literal
      else if ["this", "super"].contains text then
        let name ← word
        if ← is "(" then
          refuse .ordinaryCall
        return .identifier name
      else if text == "new" then
        newExpression n
      else if isKeyword text then
        refuse .expression
      else
        let name ← ident
        if ← is "(" then
          let arguments ← container "(" ")" (expression n) n
          return .methodInvocation ⟨← fresh, name.leading, none, { name with leading := .empty },
            arguments, none⟩
        return .identifier name
    | .punct =>
      if text == "(" then
        let space ← expect "("
        let tree ← expression n
        let after ← expect ")"
        return .parentheses (← fresh) space ⟨tree, after⟩
      else if text == "\x7b" then
        arrayInitializer n
      else refuse .expression
    | .eof => refuse .expression

/-- What follows a primary expression: members, calls, indices, references and postfix operators. -/
def selection (target : Expression) : Nat → Parse Expression
  | 0 => tooDeep
  | n + 1 => do
    let s ← get
    if s.is "." then
      if s.isAt 1 "new" || s.isAt 1 "<" then
        refuse .plainSelection
      let dot ← expect "."
      let name ← word
      let isPseudoField := name.name == "class" || name.name == "this"
      if isKeyword name.name && !isPseudoField then
        refuse .identifierAfterDot
      let (space, select) := hoist target
      if !isPseudoField && (← is "(") then
        let arguments ← container "(" ")" (expression n) n
        selection (.methodInvocation ⟨← fresh, space, some ⟨select, dot⟩, name, arguments, none⟩) n
      else
        selection (.fieldAccess ⟨← fresh, space, select, dot, name, .unknown⟩) n
    else if s.is "[" then
      let opening ← expect "["
      let index ← expression n
      let closing ← expect "]"
      let (space, indexed) := hoist target
      selection (.arrayAccess (← fresh) space indexed ⟨opening, some index, closing⟩ .unknown) n
    else if s.is "::" then
      let colons ← expect "::"
      let name ← word
      let (space, containing) := hoist target
      selection (.memberReference (← fresh) space containing colons name .unknown) n
    else if s.is "++" || s.is "--" then
      let (before, token) ← next
      let op := if token.text == "++" then UnaryOp.postIncrement else .postDecrement
      let (space, operand) := hoist target
      selection (.unary (← fresh) space before op operand .unknown) n
    else return target

def newExpression : Nat → Parse Expression
  | 0 => tooDeep
  | n + 1 => do
    let space ← expect "new"
    let base ← typeBase n
    if ← is "[" then
      let dimensions ← dimensionList n
      let initializer ←
        if ← is "\x7b" then
          pure (some (← container "\x7b" "\x7d" (variableInitializer n) n))
        else pure none
      return .newArray (← fresh) space (some base) dimensions initializer .unknown
    else
      let arguments ← container "(" ")" (expression n) n
      let body ← if ← is "\x7b" then pure (some (← classBody n)) else pure none
      return .newClass (← fresh) space base arguments body .unknown

def dimensionList : Nat → Parse (List ArrayDimension)
  | 0 => tooDeep
  | n + 1 => do
    if ← is "[" then
      let opening ← expect "["
      let index ← if ← is "]" then pure none else pure (some (← expression n))
      let closing ← expect "]"
      return ⟨opening, index, closing⟩ :: (← dimensionList n)
    return []

end

/-- The name behind `import`, whose last segment may be a star. -/
def importRest (name : Expression) : Nat → Parse Expression
  | 0 => tooDeep
  | n + 1 => do
    if ← is "." then
      let dot ← expect "."
      let segment ←
        if ← is "*" then
          let (space, _) ← next
          pure { id := ← fresh, leading := space, name := "*" }
        else ident
      let (space, target) := hoist name
      importRest (.fieldAccess ⟨← fresh, space, target, dot, segment, .unknown⟩) n
    else return name

def importName (n : Nat) : Parse FieldAccess := do
  match ← importRest (.identifier (← ident)) n with
  | .fieldAccess name => return name
  | _ => refuse .qualifiedImport

def packageDeclaration (n : Nat) : Parse (Option (Padded Package)) := do
  if ← is "package" then
    let space ← expect "package"
    let name ← qualifiedName n
    let after ← expect ";"
    return some ⟨⟨← fresh, space, name⟩, after⟩
  return none

def importList : Nat → Parse (List (Padded Import))
  | 0 => tooDeep
  | n + 1 => do
    if ← is "import" then
      let space ← expect "import"
      let staticLeading ← if ← is "static" then pure (some (← expect "static")) else pure none
      let name ← importName n
      let after ← expect ";"
      let first := ⟨⟨← fresh, space, staticLeading, name⟩, after⟩
      return first :: (← importList n)
    return []

def classList : Nat → Parse (List ClassDeclaration)
  | 0 => tooDeep
  | n + 1 => do
    if ← ask (·.atEnd) then return []
    let h ← heading n
    if ← ask fun s => s.is "class" || s.is "interface" then
      let first ← classDeclaration h n
      return first :: (← classList n)
    refuse .declaration

def unit (path : String) (n : Nat) : Parse CompilationUnit := do
  let package ← packageDeclaration n
  let imports ← importList n
  let classes ← classList n
  return ⟨← fresh, path, package, imports, classes, (← get).peek.leading⟩

/-- A derivation goes through fewer than this many nonterminals without reading a token. -/
def rankBound : Nat := 24

/-- The unit of a list of tokens, its nodes numbered from `nextId`, and the next free id. -/
def parseTokens (path : String) (tokens : List Token) (nextId : NodeId) :
    Except SyntaxError (CompilationUnit × NodeId) :=
  match unit path (rankBound * (tokens.length + 1)) ⟨tokens, false, nextId⟩ with
  | .ok (u, s) => .ok (u, s.nextId)
  | .error e => .error e

end Retouch.Parser

namespace Retouch

/-- The unit of a source, without types, and the next free id. -/
def parseUnit (path source : String) (nextId : NodeId) :
    Except ParseError (CompilationUnit × NodeId) :=
  (do Parser.parseTokens path (← tokenize source) nextId).mapError (ParseError.ofSyntax path source)

end Retouch
