import PackageAtlas.Unicode.Decomposition

/-!
# Normalization by compatibility

The normal form NFKC: characters are decomposed, marks are put in the order of their classes, and
what composes is composed again. Hangul syllables are computed from their code points.
-/
namespace PackageAtlas.Unicode

/-! ### Hangul syllables -/

def hangulBase : Nat := 0xAC00

def leadBase : Nat := 0x1100

def vowelBase : Nat := 0x1161

def tailBase : Nat := 0x11A7

def leadCount : Nat := 19

def vowelCount : Nat := 21

def tailCount : Nat := 28

def isHangul (code : Nat) : Bool :=
  hangulBase ≤ code && code < hangulBase + leadCount * vowelCount * tailCount

def decomposeHangul (code : Nat) : List Nat :=
  let index := code - hangulBase
  let lead := leadBase + index / (vowelCount * tailCount)
  let vowel := vowelBase + index / tailCount % vowelCount
  let tail := index % tailCount
  if tail = 0 then [lead, vowel] else [lead, vowel, tailBase + tail]

/-- A leading letter with a vowel, or a syllable without a tail with its tail. -/
def composeHangul? (first second : Nat) : Option Nat :=
  if leadBase ≤ first && first < leadBase + leadCount
      && vowelBase ≤ second && second < vowelBase + vowelCount then
    some (hangulBase + ((first - leadBase) * vowelCount + (second - vowelBase)) * tailCount)
  else if isHangul first && (first - hangulBase) % tailCount = 0
      && tailBase < second && second < tailBase + tailCount then
    some (first + (second - tailBase))
  else none

/-! ### Decomposing, ordering, composing -/

def decompose (code : Nat) : List Nat :=
  if isHangul code then decomposeHangul code
  else
    match decompositionRuns.find? fun run => run.first ≤ code && code < run.first + run.count with
    | none => [code]
    | some run =>
      match run.target with
      | [target] => [target + (code - run.first)]
      | target => target

def combiningClass (code : Nat) : Nat :=
  match combiningClasses.find? fun entry => entry.1.1 ≤ code && code ≤ entry.1.2 with
  | some entry => entry.2
  | none => 0

/-- Puts a mark behind all characters that are no marks or have no greater class. The characters
stand in reverse. -/
def placeMark (mark : Nat × Nat) : List (Nat × Nat) → List (Nat × Nat)
  | [] => [mark]
  | last :: before =>
    if mark.2 ≠ 0 && last.2 > mark.2 then last :: placeMark mark before else mark :: last :: before

/-- The characters with their classes, every run of marks in the order of the classes. -/
def ordered (codes : List Nat) : List (Nat × Nat) :=
  (codes.foldl (fun done code => placeMark (code, combiningClass code) done) []).reverse

def compose? (first second : Nat) : Option Nat :=
  composeHangul? first second <|> compositions.lookup (first, second)

/-- A starter with the marks behind it that do not compose, in reverse. -/
structure Cluster where
  starter : Nat
  kept : List (Nat × Nat)

def Cluster.codes (cluster : Cluster) : List Nat :=
  cluster.starter :: (cluster.kept.reverse.map (·.1))

def composeNext (state : List Nat × Option Cluster) (next : Nat × Nat) :
    List Nat × Option Cluster :=
  match state with
  | (done, none) =>
    if next.2 = 0 then (done, some ⟨next.1, []⟩) else (next.1 :: done, none)
  | (done, some cluster) =>
    -- A mark is blocked by one of its class or a greater one before it.
    let blocked := match cluster.kept with
      | [] => false
      | last :: _ => next.2 ≤ last.2
    match if blocked then none else compose? cluster.starter next.1 with
    | some composed => (done, some { cluster with starter := composed })
    | none =>
      if next.2 = 0 then (cluster.codes.reverse ++ done, some ⟨next.1, []⟩)
      else (done, some { cluster with kept := next :: cluster.kept })

def compose (marks : List (Nat × Nat)) : List Nat :=
  match marks.foldl composeNext ([], none) with
  | (done, none) => done.reverse
  | (done, some cluster) => done.reverse ++ cluster.codes

def normalize (text : String) : String :=
  let codes := compose (ordered (text.toList.flatMap fun c => decompose c.toNat))
  String.ofList (codes.map Char.ofNat)

end PackageAtlas.Unicode
