import EntityStore.Source.Parser

/-! Types as they are written.
A type keeps its tokens. Of a path the last segment matters: its name, and the type between its
angle brackets when that is all they hold.
-/

namespace EntityStore.Source

/-- A type as it is written. -/
inductive TypeExpr where
  /-- A path with the name of its last segment and the only argument of that segment. A qualified
  path starts with another type in angle brackets. -/
  | path (tokens : List Token) (qualified : Bool) (name : String) (argument : Option TypeExpr)
  /-- A type that is no path. -/
  | other (tokens : List Token)
  deriving Repr, Inhabited

namespace TypeExpr

/-- The tokens of a type. -/
def tokens : TypeExpr → List Token
  | path tokens _ _ _ => tokens
  | other tokens => tokens

/-- The name at the end of a path. -/
def name? : TypeExpr → Option String
  | path _ _ name _ => some name
  | other _ => none

/-- The name at the end of a path that starts with no type. -/
def plainName? : TypeExpr → Option String
  | path _ false name _ => some name
  | _ => none

/-- The only argument of a path that ends with a name. -/
def argumentOf? (wrapper : String) : TypeExpr → Option TypeExpr
  | path _ _ name argument => if name = wrapper then argument else none
  | other _ => none

end TypeExpr

-----------------------------------------------------------------------------------------
-- Paths
-----------------------------------------------------------------------------------------

/-- The arguments of a segment of a path. -/
inductive Arguments where
  | absent
  /-- Arguments in angle brackets, with the only one if it is a type. -/
  | angled (sole : Option TypeExpr)
  /-- Arguments in parentheses. -/
  | call

/-- A segment of a path. -/
structure Segment where
  name : String
  arguments : Arguments

namespace Segment

/-- The segment has no arguments. -/
def isPlain (segment : Segment) : Bool :=
  match segment.arguments with
  | .absent => true
  | _ => false

/-- The only argument of the segment. -/
def argument? (segment : Segment) : Option TypeExpr :=
  match segment.arguments with
  | .angled sole => sole
  | _ => none

end Segment

/-- A path with a segment or more. -/
structure PathExpr where
  /-- The path starts with another type in angle brackets. -/
  qualified : Bool
  /-- The path starts with a separator. -/
  rooted : Bool
  segments : List Segment
  last : Segment

namespace PathExpr

/-- No segment has arguments. -/
def isPlain (path : PathExpr) : Bool :=
  !path.qualified && path.segments.all Segment.isPlain && path.last.isPlain

/-- The path is a name, perhaps with arguments in angle brackets. -/
def isName (path : PathExpr) : Bool :=
  !path.qualified && !path.rooted && path.segments.isEmpty
    && match path.last.arguments with
      | .call => false
      | _ => true

/-- The path with another segment. -/
def extend (path : PathExpr) (segment : Segment) : PathExpr :=
  { path with segments := path.segments ++ [path.last], last := segment }

end PathExpr

/-- The type with the given tokens, and its path if it is one. -/
def TypeExpr.ofPath? (found? : Option PathExpr) (tokens : List Token) : TypeExpr :=
  match found? with
  | some found => .path tokens found.qualified found.last.name found.last.argument?
  | none => .other tokens

/-- What an argument in angle brackets is. -/
inductive Argument where
  | type (type : TypeExpr)
  | other

/-- The only argument, if it is a type. -/
def soleType? : List Argument → Option TypeExpr
  | [.type type] => some type
  | _ => none

-----------------------------------------------------------------------------------------
-- Conditions on the tokens to come
-----------------------------------------------------------------------------------------

/-- A bound may start here. -/
def startsBound (tokens : List Token) : Bool :=
  startsAnyWord tokens || startsPathSeparator tokens || startsSymbol ['?'] tokens
    || startsLifetime tokens || startsGroup .parenthesis tokens || startsSymbol ['~'] tokens

/-- A path may start here. -/
def startsPath (tokens : List Token) : Bool :=
  match tokens with
  | .name word :: _ => isFree word || ["super", "self", "Self", "crate"].contains word
  | _ => startsPathSeparator tokens || startsSymbol ['<'] tokens

/-- The type of a function starts here. -/
def startsFunctionType : List Token → Bool
  | .name word :: _ => ["fn", "unsafe", "extern"].contains word
  | _ => false

/-- A group in parentheses follows a path separator. -/
def startsSeparatedCall : List Token → Bool
  | .mark ':' true :: .mark ':' _ :: .group .parenthesis _ :: _ => true
  | _ => false

/-- Angle brackets follow a path separator. -/
def startsSeparatedAngles : List Token → Bool
  | .mark ':' true :: .mark ':' _ :: .mark '<' _ :: _ => true
  | _ => false

/-- Angle brackets start here. -/
def startsAngles (tokens : List Token) : Bool :=
  startsSymbol ['<'] tokens && !startsSymbol ['<', '='] tokens

-----------------------------------------------------------------------------------------
-- Types
-----------------------------------------------------------------------------------------

mutual
/-- A type. Where the flag is not set, a plus sign ends it. -/
def typeWithin : Nat → Bool → Parser TypeExpr
  | 0, _ => failure
  | bound + 1, plus => do
      let (path?, tokens) ← spelled (shapeWithin bound plus)
      return .ofPath? path? tokens

/-- The tokens of a type, and its path if it is one. -/
def shapeWithin : Nat → Bool → Parser (Option PathExpr)
  | 0, _ => failure
  | bound + 1, plus => do
      let tokens ← get
      match tokens with
      | .group .parenthesis contents :: rest =>
          set rest
          let single ← inside contents (parenthesizedWithin bound)
          if single && plus && startsSymbol ['+'] rest then
            symbol ['+']
            if startsBound (← get) then
              let _ ← boundsWithin bound true
          return none
      | .group .bracket contents :: rest =>
          set rest
          inside contents (bracketedWithin bound)
          return none
      | .lifetime _ :: _ =>
          traitsWithin bound plus
          return none
      | .mark '*' _ :: rest =>
          set rest
          if !(← keyword? "const") then keyword "mut"
          let _ ← typeWithin bound false
          return none
      | .mark '&' _ :: rest =>
          set rest
          if startsLifetime rest then lifetime
          let _ ← keyword? "mut"
          let _ ← typeWithin bound false
          return none
      | .mark '!' _ :: rest =>
          if startsSymbol ['!', '='] tokens then failure
          set rest
          return none
      | .name "_" :: rest =>
          set rest
          return none
      | .name "dyn" :: rest =>
          set rest
          traitsWithin bound plus
          return none
      | .name "impl" :: rest =>
          set rest
          traitsWithin bound plus
          return none
      | .name "for" :: _ =>
          lifetimeBinderWithin bound
          if startsFunctionType (← get) then functionTypeWithin bound
          else
            let path ← pathWithin bound
            if path.qualified then failure
            if plus && startsSymbol ['+'] (← get) then
              symbol ['+']
              if startsBound (← get) then
                let _ ← boundsWithin bound true
          return none
      | _ =>
          if startsFunctionType tokens then
            functionTypeWithin bound
            return none
          else if startsPath tokens then
            let path ← pathWithin bound
            let rest ← get
            if path.qualified then return some path
            else if startsSymbol ['!'] rest && !startsSymbol ['!', '='] rest && path.isPlain then
              symbol ['!']
              let _ ← anyGroup
              return none
            else if plus && startsSymbol ['+'] rest then
              symbol ['+']
              if startsBound (← get) then
                let _ ← boundsWithin bound true
              return none
            else return some path
          else failure

/-- What stands in parentheses: nothing, types with commas, or one type that may be a bound. -/
def parenthesizedWithin : Nat → Parser Bool
  | 0 => failure
  | bound + 1 => do
      let tokens ← get
      if tokens.isEmpty then return false
      else if startsLifetime tokens || startsSymbol ['?'] tokens then
        let _ ← boundsWithin bound true
        return false
      else
        let first ← typeWithin bound true
        if startsSymbol [','] (← get) then
          symbol [',']
          let _ ← separatedWithin List.isEmpty ',' (typeWithin bound true) bound
          return false
        else return first.plainName?.isSome

/-- What stands in brackets: a type, or a type and a length. -/
def bracketedWithin : Nat → Parser Unit
  | 0 => failure
  | bound + 1 => do
      let _ ← typeWithin bound true
      if ← symbol? [';'] then
        if ← atEnd then failure
        set ([] : List Token)

/-- Bounds, at least one of which is no lifetime. -/
def traitsWithin : Nat → Bool → Parser Unit
  | 0, _ => failure
  | bound + 1, plus => do
      let traits ← boundsWithin bound plus
      if !traits.any id then failure

/-- Bounds with plus signs between them, each with whether it is no lifetime. -/
def boundsWithin : Nat → Bool → Parser (List Bool)
  | 0, _ => failure
  | bound + 1, plus => do
      let first ← boundWithin bound
      if plus && startsSymbol ['+'] (← get) then
        symbol ['+']
        if startsBound (← get) then return first :: (← boundsWithin bound plus)
        else return [first]
      else return [first]

/-- A bound: a lifetime, captured names, or a trait that may stand in parentheses. The answer is
whether it is a trait. -/
def boundWithin : Nat → Parser Bool
  | 0 => failure
  | bound + 1 => do
      match ← get with
      | .lifetime _ :: rest =>
          set rest
          return false
      | .name "use" :: rest =>
          set rest
          symbol ['<']
          let _ ← separatedWithin (startsSymbol ['>']) ','
            (lifetime <|> (fun _ => ()) <$> anyWord) bound
          symbol ['>']
          return false
      | .group .parenthesis contents :: rest =>
          set rest
          inside contents (traitWithin bound)
          return true
      | _ =>
          traitWithin bound
          return true

/-- A trait with its modifiers. -/
def traitWithin : Nat → Parser Unit
  | 0 => failure
  | bound + 1 => do
      if startsWord "for" (← get) then lifetimeBinderWithin bound
      if ← symbol? ['~'] then keyword "const"
      let _ ← symbol? ['?']
      if startsWord "for" (← get) then lifetimeBinderWithin bound
      if startsSymbol ['<'] (← get) then failure
      let _ ← pathWithin bound

/-- The lifetimes that a type is read for all of. -/
def lifetimeBinderWithin : Nat → Parser Unit
  | 0 => failure
  | bound + 1 => do
      keyword "for"
      symbol ['<']
      let _ ← separatedWithin (startsSymbol ['>']) ',' (lifetimeParameterWithin bound) bound
      symbol ['>']

/-- A lifetime, perhaps with the lifetimes that it outlasts. -/
def lifetimeParameterWithin : Nat → Parser Unit
  | 0 => failure
  | bound + 1 => do
      lifetime
      if startsColon (← get) then
        symbol [':']
        let _ ← separatedWithin
          (fun tokens => startsSymbol [','] tokens || startsSymbol ['>'] tokens) '+' lifetime bound

/-- The type of a function. -/
def functionTypeWithin : Nat → Parser Unit
  | 0 => failure
  | bound + 1 => do
      let _ ← keyword? "unsafe"
      if ← keyword? "extern" then
        match ← get with
        | .literal _ :: rest => set rest
        | _ => pure ()
      keyword "fn"
      let contents ← group .parenthesis
      inside contents do
        let _ ← separatedWithin List.isEmpty ',' (functionArgumentWithin bound) (contents.length + 1)
      if ← symbol? ['-', '>'] then
        let _ ← typeWithin bound false

/-- An argument of the type of a function, which may have a name. -/
def functionArgumentWithin : Nat → Parser Unit
  | 0 => failure
  | bound + 1 => do
      match ← get with
      | .name word :: rest =>
          if (isFree word || word = "_" || word = "self") && startsColon rest then
            set (rest.drop 1)
      | _ => pure ()
      if !(← symbol? ['.', '.', '.']) then
        let _ ← typeWithin bound true

/-- A path in a type. -/
def pathWithin : Nat → Parser PathExpr
  | 0 => failure
  | bound + 1 => do
      if ← symbol? ['<'] then
        let _ ← typeWithin bound true
        if ← keyword? "as" then
          let trait ← pathWithin bound
          if trait.qualified then failure
        symbol ['>']
        symbol [':', ':']
        let first ← segmentWithin bound
        restOfPathWithin bound { qualified := true, rooted := true, segments := [], last := first }
      else
        let rooted ← symbol? [':', ':']
        let first ← segmentWithin bound
        restOfPathWithin bound { qualified := false, rooted, segments := [], last := first }

/-- The segments after the first ones. Arguments in parentheses may follow the last segment. -/
def restOfPathWithin : Nat → PathExpr → Parser PathExpr
  | 0, _ => failure
  | bound + 1, path => do
      let tokens ← get
      if startsSeparatedCall tokens || startsGroup .parenthesis tokens && path.last.isPlain then
        if !path.last.isPlain then return path
        let _ ← symbol? [':', ':']
        let contents ← group .parenthesis
        let _ ← inside contents
          (separatedWithin List.isEmpty ',' (typeWithin bound true) (contents.length + 1))
        if ← symbol? ['-', '>'] then
          let _ ← typeWithin bound false
          return { path with last := { path.last with arguments := .call } }
        else restOfPathWithin bound { path with last := { path.last with arguments := .call } }
      else if startsPathSeparator tokens then
        symbol [':', ':']
        let segment ← segmentWithin bound
        restOfPathWithin bound (path.extend segment)
      else return path

/-- A segment of a path. Segments that lead to another module have no arguments. -/
def segmentWithin : Nat → Parser Segment
  | 0 => failure
  | bound + 1 => do
      let name ← anyWord
      if ["super", "self", "crate", "try"].contains name then return ⟨name, .absent⟩
      if !(isFree name || name = "Self") then failure
      let tokens ← get
      if startsAngles tokens || startsSeparatedAngles tokens then
        let _ ← symbol? [':', ':']
        symbol ['<']
        let arguments ← separatedWithin (startsSymbol ['>']) ',' (argumentWithin bound) bound
        symbol ['>']
        return ⟨name, .angled (soleType? arguments)⟩
      else return ⟨name, .absent⟩

/-- An argument in angle brackets. -/
def argumentWithin : Nat → Parser Argument
  | 0 => failure
  | bound + 1 => do
      match ← get with
      | .lifetime _ :: rest =>
          if !startsSymbol ['+'] rest then
            set rest
            return .other
      | .literal _ :: rest | .group .brace _ :: rest | .mark '-' _ :: .literal _ :: rest
      | .name "true" :: rest | .name "false" :: rest =>
          set rest
          return .other
      | _ => pure ()
      let (path?, tokens) ← spelled (shapeWithin bound true)
      let type := TypeExpr.ofPath? path? tokens
      let rest ← get
      if !path?.any PathExpr.isName then return .type type
      else if startsSymbol ['='] rest then
        symbol ['=']
        let _ ← argumentWithin bound
        return .other
      else if startsColon rest then
        symbol [':']
        let ends := fun tokens => startsSymbol [','] tokens || startsSymbol ['>'] tokens
        if ends (← get) then return .other
        let _ ← boundsWithin bound true
        return .other
      else return .type type
end

/-- A bound of the descent into tokens: every token is met at a few levels only. -/
def descent (tokens : List Token) : Nat :=
  8 * countOf tokens + 8

/-- A type. -/
def typeExpr : Parser TypeExpr := do
  typeWithin (descent (← get)) true

/-- Bounds with plus signs between them. -/
def bounds : Parser Unit := do
  let _ ← boundsWithin (descent (← get)) true

/-- The lifetimes that a type is read for all of. -/
def lifetimeBinder : Parser Unit := do
  lifetimeBinderWithin (descent (← get))

/-- A lifetime, perhaps with the lifetimes that it outlasts. -/
def lifetimeParameter : Parser Unit := do
  lifetimeParameterWithin (descent (← get))

end EntityStore.Source
