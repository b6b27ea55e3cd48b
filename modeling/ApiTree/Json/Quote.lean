import ApiTree.Json.Fault

namespace ApiTree.Json

/-!
# String literals

The characters after an opening quote are scanned for two readers at once.  One
keeps the string; the other only skips it and does not look at what a
hexadecimal escape stands for.  A literal that the first reader rejects may
therefore still be skipped.
-/

/-- The value of a hexadecimal digit. -/
def hexDigit? (char : Char) : Option Nat :=
  if '0' ≤ char ∧ char ≤ '9' then some (char.toNat - '0'.toNat)
  else if 'a' ≤ char ∧ char ≤ 'f' then some (char.toNat - 'a'.toNat + 10)
  else if 'A' ≤ char ∧ char ≤ 'F' then some (char.toNat - 'A'.toNat + 10)
  else none

/-- The number of bytes of a list of characters. -/
def byteCount (chars : List Char) : Nat :=
  chars.foldl (fun count char => count + char.utf8Size) 0

/--
Reads the four digits of a hexadecimal escape that starts at the offset.  With
fewer than four bytes left the string is unfinished.
-/
def readHex
    (offset : Nat)
    (chars : List Char) :
    Except Fault (Nat × List Char) :=
  match chars with
  | first :: second :: third :: fourth :: rest =>
      match hexDigit? first, hexDigit? second, hexDigit? third, hexDigit? fourth with
      | some a, some b, some c, some d =>
          .ok (((a * 16 + b) * 16 + c) * 16 + d, rest)
      | _, _, _, _ => .error ⟨.invalidEscape, offset + 4⟩
  | few =>
      if byteCount few < 4 then
        .error ⟨.endInString, offset + byteCount few⟩
      else
        .error ⟨.invalidEscape, offset + 4⟩

/-- Reading an escape shortens the rest. -/
theorem length_readHex
    {offset : Nat}
    {chars rest : List Char}
    {code : Nat}
    (success : readHex offset chars = .ok (code, rest)) :
    rest.length < chars.length := by
  unfold readHex at success
  split at success
  · split at success
    · injection success with same
      injection same with _ sameRest
      subst sameRest
      simp only [List.length_cons]
      omega
    · cases success
  · split at success <;> cases success

/-- Whether a code is the first half of a surrogate pair. -/
def isLeadingSurrogate (code : Nat) : Bool :=
  0xD800 ≤ code && code ≤ 0xDBFF

/-- Whether a code is the second half of a surrogate pair. -/
def isTrailingSurrogate (code : Nat) : Bool :=
  0xDC00 ≤ code && code ≤ 0xDFFF

/-- The character of a surrogate pair. -/
def pairedChar (leading trailing : Nat) : Char :=
  Char.ofNat ((leading - 0xD800) * 0x400 + (trailing - 0xDC00) + 0x10000)

/--
The second half of a surrogate pair, which has to follow the first half at the
offset as an escape of its own.
-/
def readTrailing
    (offset : Nat)
    (chars : List Char) :
    Except Fault (Nat × List Char) :=
  match chars with
  | [] => .error ⟨.endInString, offset⟩
  | '\\' :: [] => .error ⟨.endInString, offset + 1⟩
  | '\\' :: 'u' :: digits => do
      let (code, rest) ← readHex (offset + 2) digits
      if isTrailingSurrogate code then
        .ok (code, rest)
      else
        .error ⟨.loneSurrogate, offset + 6⟩
  | '\\' :: _ => .error ⟨.endInHexEscape, offset + 2⟩
  | _ => .error ⟨.endInHexEscape, offset + 1⟩

/-- Reading the second half of a pair shortens the rest. -/
theorem length_readTrailing
    {offset : Nat}
    {chars rest : List Char}
    {code : Nat}
    (success : readTrailing offset chars = .ok (code, rest)) :
    rest.length < chars.length := by
  unfold readTrailing at success
  split at success
  · cases success
  · cases success
  · rename_i digits
    cases hex : readHex (offset + 2) digits with
    | error fault =>
        rw [hex] at success
        cases success
    | ok taken =>
        obtain ⟨takenCode, takenRest⟩ := taken
        rw [hex] at success
        have shorter := length_readHex hex
        change (if isTrailingSurrogate takenCode = true then _ else _) = _
          at success
        split at success
        · injection success with same
          injection same with _ sameRest
          subst sameRest
          simp only [List.length_cons]
          omega
        · cases success
  · cases success
  · cases success

/-- The character that a one-letter escape stands for. -/
def simpleEscape? (char : Char) : Option Char :=
  match char with
  | '"' => some '"'
  | '\\' => some '\\'
  | '/' => some '/'
  | 'b' => some '\x08'
  | 'f' => some '\x0c'
  | 'n' => some '\n'
  | 'r' => some '\r'
  | 't' => some '\t'
  | _ => none

/-- A scanned literal: what each reader gets, and the rest after the closing quote. -/
structure Quote where
  reading : Except Fault String
  skipping : Except Fault Unit
  rest : List Char
  stop : Nat

/-- A literal that breaks off for both readers. -/
def Quote.broken
    (earlier : Option Fault)
    (reading skipping : Fault)
    (rest : List Char)
    (stop : Nat) :
    Quote :=
  { reading := .error (earlier.getD reading)
    skipping := .error skipping
    rest := rest
    stop := stop }

/--
Scans a literal after its opening quote.  `taken` holds the characters so far,
the last one first; `earlier` is the first fault that only matters to a reader
that keeps the string.
-/
def scanQuote
    (offset : Nat)
    (taken : List Char)
    (earlier : Option Fault)
    (chars : List Char) :
    Quote :=
  match chars with
  | [] =>
      .broken earlier ⟨.endInString, offset⟩ ⟨.endInString, offset⟩ [] offset
  | '"' :: rest =>
      { reading :=
          match earlier with
          | some fault => .error fault
          | none => .ok (String.ofList taken.reverse)
        skipping := .ok ()
        rest := rest
        stop := offset + 1 }
  | '\\' :: [] =>
      .broken earlier ⟨.endInString, offset + 1⟩ ⟨.endInString, offset + 1⟩ []
        (offset + 1)
  | '\\' :: 'u' :: digits =>
      match escape : readHex (offset + 2) digits with
      | .error fault => .broken earlier fault fault [] fault.offset
      | .ok (code, rest) =>
          if isTrailingSurrogate code then
            scanQuote (offset + 6) taken
              (earlier <|> some ⟨.loneSurrogate, offset + 6⟩) rest
          else if isLeadingSurrogate code then
            match pair : readTrailing (offset + 6) rest with
            | .ok (trailing, afterPair) =>
                scanQuote (offset + 12) (pairedChar code trailing :: taken) earlier
                  afterPair
            | .error fault =>
                scanQuote (offset + 6) taken (earlier <|> some fault) rest
          else
            scanQuote (offset + 6) (Char.ofNat code :: taken) earlier rest
  | '\\' :: letter :: rest =>
      match simpleEscape? letter with
      | some char => scanQuote (offset + 2) (char :: taken) earlier rest
      | none =>
          .broken earlier ⟨.invalidEscape, offset + 2⟩ ⟨.invalidEscape, offset + 2⟩
            [] (offset + 2)
  | char :: rest =>
      if char < ' ' then
        .broken earlier ⟨.controlCharacter, offset + 1⟩ ⟨.controlCharacter, offset⟩
          [] offset
      else
        scanQuote (offset + char.utf8Size) (char :: taken) earlier rest
termination_by chars.length
decreasing_by
  · have shorter := length_readHex escape
    simp only [List.length_cons]
    omega
  · have shorter := length_readHex escape
    have shorterPair := length_readTrailing pair
    simp only [List.length_cons]
    omega
  · have shorter := length_readHex escape
    simp only [List.length_cons]
    omega
  · have shorter := length_readHex escape
    simp only [List.length_cons]
    omega
  · simp only [List.length_cons]
    omega
  · simp only [List.length_cons]
    omega

/-- Scanning a literal never lengthens the rest. -/
theorem length_scanQuote_rest_le
    (offset : Nat)
    (taken : List Char)
    (earlier : Option Fault)
    (chars : List Char) :
    (scanQuote offset taken earlier chars).rest.length ≤ chars.length := by
  fun_induction scanQuote offset taken earlier chars with
  | case1 => simp [Quote.broken]
  | case2 => simp
  | case3 => simp [Quote.broken]
  | case4 => simp [Quote.broken]
  | case5 offset taken earlier digits code rest escape _ inductionHypothesis =>
      have shorter := length_readHex escape
      simp only [List.length_cons]
      omega
  | case6 offset taken earlier digits code rest escape _ _ _ _ pair
      inductionHypothesis =>
      have shorter := length_readHex escape
      have shorterPair := length_readTrailing pair
      simp only [List.length_cons]
      omega
  | case7 offset taken earlier digits code rest escape _ _ _ _
      inductionHypothesis =>
      have shorter := length_readHex escape
      simp only [List.length_cons]
      omega
  | case8 offset taken earlier digits code rest escape _ _ inductionHypothesis =>
      have shorter := length_readHex escape
      simp only [List.length_cons]
      omega
  | case9 => 
      simp only [List.length_cons]
      omega
  | case10 => simp [Quote.broken]
  | case11 => simp [Quote.broken]
  | case12 => 
      simp only [List.length_cons]
      omega

end ApiTree.Json
