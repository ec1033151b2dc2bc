import Concordance.Text.CodePoints
import Concordance.Text.Letters

/-!
# Small letters

A table lists runs of capital letters with the distance from each to its small letter.

* `lower` is a text with its letters made small.
-/

namespace Concordance.Text

/-- Capital letters whose small letters are all at the same distance. -/
structure LetterRun where
  /-- The edges of the set of capital letters. -/
  edges : Array Nat
  /-- Are the small letters above the capital ones? -/
  up : Bool
  /-- The distance to the small letters. -/
  distance : Nat

/-- The runs, each as the capital letters, a sign for the direction (`>` up and `<` down), and the
distance. -/
def letterTable : List String := [
  "41-5a>20 c0-d6>20 d8-de>20 100~12e>1 132~136>1 139~147>1 14a~176>1 178<79 179~17d>1 181>d2",
  "182~184>1 186>ce 187>1 189-18a>cd 18b>1 18e>4f 18f>ca 190>cb 191>1 193>cd 194>cf 196>d3",
  "197>d1 198>1 19c>d3 19d>d5 19f>d6 1a0~1a4>1 1a6>da 1a7>1 1a9>da 1ac>1 1ae>da 1af>1",
  "1b1-1b2>d9 1b3~1b5>1 1b7>db 1b8>1 1bc>1 1c4>2 1c5>1 1c7>2 1c8>1 1ca>2 1cb~1db>1 1de~1ee>1",
  "1f1>2 1f2~1f4>1 1f6<61 1f7<38 1f8~21e>1 220<82 222~232>1 23a>2a2b 23b>1 23d<a3 23e>2a28",
  "241>1 243<c3 244>45 245>47 246~24e>1 370~372>1 376>1 37f>74 386>26 388-38a>25 38c>40",
  "38e-38f>3f 391-3a1>20 3a3-3ab>20 3cf>8 3d8~3ee>1 3f4<3c 3f7>1 3f9<7 3fa>1 3fd-3ff<82",
  "400-40f>50 410-42f>20 460~480>1 48a~4be>1 4c0>f 4c1~4cd>1 4d0~52e>1 531-556>30",
  "10a0-10c5>1c60 10c7>1c60 10cd>1c60 13a0-13ef>97d0 13f0-13f5>8 1c89>1 1c90-1cba<bc0",
  "1cbd-1cbf<bc0 1e00~1e94>1 1e9e<1dbf 1ea0~1efe>1 1f08-1f0f<8 1f18-1f1d<8 1f28-1f2f<8",
  "1f38-1f3f<8 1f48-1f4d<8 1f59~1f5f<8 1f68-1f6f<8 1f88-1f8f<8 1f98-1f9f<8 1fa8-1faf<8",
  "1fb8-1fb9<8 1fba-1fbb<4a 1fbc<9 1fc8-1fcb<56 1fcc<9 1fd8-1fd9<8 1fda-1fdb<64 1fe8-1fe9<8",
  "1fea-1feb<70 1fec<7 1ff8-1ff9<80 1ffa-1ffb<7e 1ffc<9 2126<1d5d 212a<20bf 212b<2046 2132>1c",
  "2160-216f>10 2183>1 24b6-24cf>1a 2c00-2c2f>30 2c60>1 2c62<29f7 2c63<ee6 2c64<29e7",
  "2c67~2c6b>1 2c6d<2a1c 2c6e<29fd 2c6f<2a1f 2c70<2a1e 2c72>1 2c75>1 2c7e-2c7f<2a3f 2c80~2ce2>1",
  "2ceb~2ced>1 2cf2>1 a640~a66c>1 a680~a69a>1 a722~a72e>1 a732~a76e>1 a779~a77b>1 a77d<8a04",
  "a77e~a786>1 a78b>1 a78d<a528 a790~a792>1 a796~a7a8>1 a7aa<a544 a7ab<a54f a7ac<a54b a7ad<a541",
  "a7ae<a544 a7b0<a512 a7b1<a52a a7b2<a515 a7b3>3a0 a7b4~a7c2>1 a7c4<30 a7c5<a543 a7c6<8a38",
  "a7c7~a7c9>1 a7cb<a567 a7cc~a7da>1 a7dc<a641 a7f5>1 ff21-ff3a>20 10400-10427>28",
  "104b0-104d3>28 10570-1057a>27 1057c-1058a>27 1058c-10592>27 10594-10595>27 10c80-10cb2>40",
  "10d50-10d65>20 118a0-118bf>20 16e40-16e5f>20 16ea0-16eb8>1b 1e900-1e921>22"]

/-- A run from its written form. -/
def LetterRun.ofWord (word : List Char) : LetterRun :=
  let members := word.takeWhile fun c => c ≠ '>' && c ≠ '<'
  let behind := word.drop members.length
  ⟨(CodePoints.wordEdges members).toArray, behind.head? == some '>',
    CodePoints.hexNumber behind.tail⟩

/-- All runs. -/
def letterRuns : List LetterRun :=
  letterTable.flatMap fun line => (CodePoints.words line.toList).map LetterRun.ofWord

/-- The small letter of a character; most characters stand for themselves. -/
def lowerChar (c : Char) : Char :=
  match letterRuns.find? fun run => CodePoints.memberOf run.edges c.toNat with
  | some run => Char.ofNat (if run.up then c.toNat + run.distance else c.toNat - run.distance)
  | none => c

/-- Does the character in front belong to the same word? -/
def isInWord (c : Option Char) : Bool := c.any isAlphabetic

/-- The small letters of some characters, where `before` is the character in front of them.  A
capital I with a dot keeps its dot, and a sigma at the end of a word is a final one. -/
def lowerFrom (before : Option Char) : List Char → List Char
  | [] => []
  | c :: rest =>
    let small :=
      if c = '\u0130' then ['i', '\u0307']
      else if c = '\u03a3' ∧ isInWord before ∧ ¬ isInWord rest.head? then ['\u03c2']
      else [lowerChar c]
    small ++ lowerFrom (some c) rest

/-- A text with its letters made small. -/
def lower (s : String) : String := String.ofList (lowerFrom none s.toList)

end Concordance.Text
