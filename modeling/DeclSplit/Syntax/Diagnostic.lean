/-!
What can be wrong with a source text.  The first group is found while reading characters, the second
while fitting the pieces into the grammar; `message` is the wording of each cause.
-/

namespace DeclSplit

inductive Diagnostic where
  | unterminatedText
  | unterminatedComment
  | unterminatedPattern
  | invalidCharacter (c : Char)
  | unexpectedEnd
  | badNameEscape
  | badTextEscape
  | badNumberEnd
  | unexpectedToken
  | missingSemicolon
  | expected (wanted found : String)
  | reservedName (word : String)
  | escapedKeyword
  | computedEnumName
  | numericEnumName
  | untypedIndex
  | constantWithoutValue
  | patternWithoutValue
  | strayReturn
  | modifierHere (modifier : String)
  | modifierOnMember (modifier : String)
  | modifierSeen (modifier : String)
  | exportAfterDeclare
  | interfaceImplements
  | interfaceExtends
  | extendsSeen
  | extendsAfterImplements
  | implementsSeen
  | emptyTypeArguments
  | emptyTypeParameters
  | readonlyOperand
  | strayAwait
  | emptyGroup
deriving DecidableEq, Repr

namespace Diagnostic

def message : Diagnostic → String
  | unterminatedText => "Unterminated string"
  | unterminatedComment => "Unterminated multiline comment"
  | unterminatedPattern => "Unterminated regular expression"
  | invalidCharacter c => "Invalid Character `" ++ c.toString ++ "`"
  | unexpectedEnd => "Unexpected end of file"
  | badNameEscape => "Invalid Unicode escape sequence"
  | badTextEscape => "Invalid escape sequence"
  | badNumberEnd => "Invalid characters after number"
  | unexpectedToken => "Unexpected token"
  | missingSemicolon =>
    "Expected a semicolon or an implicit semicolon after a statement, but found none"
  | expected wanted found => "Expected `" ++ wanted ++ "` but found `" ++ found ++ "`"
  | reservedName word =>
    "Identifier expected. '" ++ word ++ "' is a reserved word that cannot be used here."
  | escapedKeyword => "Keywords cannot contain escape characters"
  | computedEnumName => "Computed property names are not allowed in enums."
  | numericEnumName => "An enum member cannot have a numeric name."
  | untypedIndex => "An index signature must have a type annotation."
  | constantWithoutValue => "Missing initializer in const declaration"
  | patternWithoutValue => "Missing initializer in destructuring declaration"
  | strayReturn => "A 'return' statement can only be used within a function body."
  | modifierHere modifier => "'" ++ modifier ++ "' modifier cannot be used here."
  | modifierOnMember modifier => "'" ++ modifier ++ "' modifier cannot appear on a type member."
  | modifierSeen modifier => "'" ++ modifier ++ "' modifier already seen."
  | exportAfterDeclare => "'export' modifier must precede 'declare' modifier."
  | interfaceImplements => "Interface declaration cannot have 'implements' clause."
  | interfaceExtends =>
    "An interface can only extend an identifier/qualified-name with optional type arguments."
  | extendsSeen => "'extends' clause already seen"
  | extendsAfterImplements => "'extends' clause must precede 'implements' clause"
  | implementsSeen => "'implements' clause already seen"
  | emptyTypeArguments => "Type argument list cannot be empty."
  | emptyTypeParameters => "Type parameter list cannot be empty."
  | readonlyOperand =>
    "'readonly' type modifier is only permitted on array and tuple literal types."
  | strayAwait => "`await` is only allowed within async functions and at the top levels of modules"
  | emptyGroup => "Empty parenthesized expression"

end Diagnostic

end DeclSplit
