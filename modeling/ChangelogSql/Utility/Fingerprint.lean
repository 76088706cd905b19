import ChangelogSql.Repository.Digest

/-!
Fingerprints of texts. A text is filled up to whole blocks, and every block stirs
a few words once more; what the words are in the end is the fingerprint. The
constants of the newer ones are the first bits behind the point of roots of
primes.
-/

namespace ChangelogSql.Utility.Fingerprint

open Repository (Digest.bigEndian)

/-- The first primes. -/
def primes : List Nat :=
  (List.range 410).filter fun n =>
    2 ≤ n && (List.range n).all fun d => d < 2 || d * d > n || n % d ≠ 0

/-- The greatest number whose power does not go beyond `bound`. It is `low` with some of the last
`count` bits added. -/
def rootFrom (degree bound : Nat) : Nat → Nat → Nat
  | 0, low => low
  | count + 1, low =>
    let next := low + Numeral.twoTo count
    rootFrom degree bound count (if Nat.pow next degree ≤ bound then next else low)

/-- The first bits behind the point of a root of a number. -/
def rootBits (degree width number : Nat) : Nat :=
  rootFrom degree (number * Numeral.twoTo (degree * width)) (width + 5) 0 % Numeral.twoTo width

/-- A fingerprint that is made of words of a width. -/
structure Recipe where
  /-- How many bits a word has. -/
  width : Nat
  rounds : Nat
  /-- How far words are turned where two of them are mixed. -/
  first : List Nat
  second : List Nat
  /-- How far words are turned and moved where a block is made longer. -/
  third : List Nat × Nat
  fourth : List Nat × Nat
  start : List Nat
  /-- How many bytes the fingerprint has. -/
  size : Nat

/-- The last bits of roots of the ninth prime and those behind it. -/
def laterRoots : List Nat :=
  ((primes.drop 8).take 8).map (rootBits 2 64)

def narrow (start : List Nat) (size : Nat) : Recipe :=
  ⟨32, 64, [2, 13, 22], [6, 11, 25], ([7, 18], 3), ([17, 19], 10), start, size⟩

def wide (start : List Nat) (size : Nat) : Recipe :=
  ⟨64, 80, [28, 34, 39], [14, 18, 41], ([1, 8], 7), ([19, 61], 6), start, size⟩

def sha224 : Recipe := narrow (laterRoots.map (· % Numeral.twoTo 32)) 28
def sha256 : Recipe := narrow ((primes.take 8).map (rootBits 2 32)) 32
def sha384 : Recipe := wide laterRoots 48
def sha512 : Recipe := wide ((primes.take 8).map (rootBits 2 64)) 64

namespace Recipe

/-- A word of so many bits turned to the right. -/
def turned (recipe : Recipe) (word count : Nat) : Nat :=
  (word >>> count ||| word <<< (recipe.width - count)) % Numeral.twoTo recipe.width

/-- A word turned in several ways, all of them mixed. -/
def mixed (recipe : Recipe) (counts : List Nat) (word : Nat) : Nat :=
  counts.foldl (fun sum count => sum ^^^ recipe.turned word count) 0

/-- A sum as far as it fits into a word. -/
def sum (recipe : Recipe) (words : List Nat) : Nat :=
  Numeral.total words % Numeral.twoTo recipe.width

/-- How many bytes a block has. -/
def block (recipe : Recipe) : Nat := 2 * recipe.width

/-- A text filled up to whole blocks, the last bytes of which tell how many bits it has. -/
def padded (recipe : Recipe) (text : Bytes) : Bytes :=
  let size := text.length
  let tail := recipe.width / 4
  let rest := (size + 1 + tail) % recipe.block
  text ++ 0x80 :: List.replicate ((recipe.block - rest) % recipe.block) 0
    ++ Digest.bigEndian tail (8 * size)

/-- The words of a block, and those that follow from them. -/
def schedule (recipe : Recipe) (bytes : List UInt8) : Array Nat :=
  let size := recipe.width / 8
  let own := (List.range 16).map fun index =>
    ((bytes.drop (size * index)).take size).foldl (fun word b => 256 * word + b.toNat) 0
  (List.range (recipe.rounds - 16)).foldl
    (fun words index =>
      let word (offset : Nat) : Nat := (words[index + offset]?).getD 0
      let stirred (way : List Nat × Nat) (word : Nat) : Nat :=
        recipe.mixed way.1 word ^^^ word >>> way.2
      words.push (recipe.sum
        [word 0, stirred recipe.third (word 1), word 9, stirred recipe.fourth (word 14)]))
    own.toArray

/-- The constants, one for every round. -/
def constants (recipe : Recipe) : List Nat :=
  (primes.take recipe.rounds).map (rootBits 3 recipe.width)

/-- The words after one round. -/
def round (recipe : Recipe) (words : List Nat) (constant word : Nat) : List Nat :=
  match words with
  | [a, b, c, d, e, f, g, h] =>
    let choice := (e &&& f) ^^^ ((Numeral.twoTo recipe.width - 1 - e) &&& g)
    let majority := (a &&& b) ^^^ (a &&& c) ^^^ (b &&& c)
    let one := recipe.sum [h, recipe.mixed recipe.second e, choice, constant, word]
    let two := recipe.mixed recipe.first a + majority
    [recipe.sum [one, two], a, b, c, recipe.sum [d, one], e, f, g]
  | words => words

/-- The words after a block. -/
def after (recipe : Recipe) (constants : List Nat) (words : List Nat) (bytes : List UInt8) :
    List Nat :=
  let scheduled := (recipe.schedule bytes).toList
  let stirred := (constants.zip scheduled).foldl
    (fun words (constant, word) => recipe.round words constant word) words
  (words.zip stirred).map fun (word, other) => recipe.sum [word, other]

/-- The words after all blocks. `fuel` bounds how many there are. -/
def afterAll (recipe : Recipe) (constants : List Nat) : Nat → List Nat → List UInt8 → List Nat
  | 0, words, _ => words
  | fuel + 1, words, bytes =>
    if bytes.isEmpty then words
    else
      afterAll recipe constants fuel
        (recipe.after constants words (bytes.take recipe.block)) (bytes.drop recipe.block)

/-- The fingerprint of a text. -/
def ofBytes (recipe : Recipe) (text : Bytes) : Bytes :=
  let padded := recipe.padded text
  let words := recipe.afterAll recipe.constants (padded.length / recipe.block + 1) recipe.start padded
  (words.flatMap (Digest.bigEndian (recipe.width / 8))).take recipe.size

end Recipe

/-- The bytes of a number, the lowest first. -/
def littleEndian (width number : Nat) : Bytes :=
  (Digest.bigEndian width number).reverse

/-- The constants of the older fingerprint: bits of the sines of whole numbers. -/
def sines : List UInt32 :=
  [0xd76aa478, 0xe8c7b756, 0x242070db, 0xc1bdceee, 0xf57c0faf, 0x4787c62a, 0xa8304613, 0xfd469501,
    0x698098d8, 0x8b44f7af, 0xffff5bb1, 0x895cd7be, 0x6b901122, 0xfd987193, 0xa679438e, 0x49b40821,
    0xf61e2562, 0xc040b340, 0x265e5a51, 0xe9b6c7aa, 0xd62f105d, 0x02441453, 0xd8a1e681, 0xe7d3fbc8,
    0x21e1cde6, 0xc33707d6, 0xf4d50d87, 0x455a14ed, 0xa9e3e905, 0xfcefa3f8, 0x676f02d9, 0x8d2a4c8a,
    0xfffa3942, 0x8771f681, 0x6d9d6122, 0xfde5380c, 0xa4beea44, 0x4bdecfa9, 0xf6bb4b60, 0xbebfbc70,
    0x289b7ec6, 0xeaa127fa, 0xd4ef3085, 0x04881d05, 0xd9d4d039, 0xe6db99e5, 0x1fa27cf8, 0xc4ac5665,
    0xf4292244, 0x432aff97, 0xab9423a7, 0xfc93a039, 0x655b59c3, 0x8f0ccc92, 0xffeff47d, 0x85845dd1,
    0x6fa87e4f, 0xfe2ce6e0, 0xa3014314, 0x4e0811a1, 0xf7537e82, 0xbd3af235, 0x2ad7d2bb, 0xeb86d391]

/-- The four words of the older fingerprint. -/
structure Words where
  a : UInt32
  b : UInt32
  c : UInt32
  d : UInt32

/-- One of the sixty-four steps in which a block stirs the words. -/
def step (block : Array UInt32) (words : Words) (index : Nat) (sine : UInt32) : Words :=
  let ⟨a, b, c, d⟩ := words
  let (mixed, place, turns) : UInt32 × Nat × List UInt32 :=
    if index < 16 then ((b &&& c) ||| (~~~b &&& d), index, [7, 12, 17, 22])
    else if index < 32 then ((d &&& b) ||| (~~~d &&& c), 5 * index + 1, [5, 9, 14, 20])
    else if index < 48 then (b ^^^ c ^^^ d, 3 * index + 5, [4, 11, 16, 23])
    else (c ^^^ (b ||| ~~~d), 7 * index, [6, 10, 15, 21])
  let word := (block[place % 16]?).getD 0
  let turn := (turns[index % 4]?).getD 0
  ⟨d, b + Repository.Digest.turned (a + mixed + sine + word) turn, b, c⟩

/-- The words after a block. -/
def afterBlock (words : Words) (bytes : List UInt8) : Words :=
  let block := (List.range 16).map fun index =>
    ((bytes.drop (4 * index)).take 4).foldr (fun b (word : UInt32) => 256 * word + b.toUInt32) 0
  let stirred := (sines.zipIdx).foldl
    (fun words (sine, index) => step block.toArray words index sine) words
  ⟨words.a + stirred.a, words.b + stirred.b, words.c + stirred.c, words.d + stirred.d⟩

/-- The words after all blocks. `fuel` bounds how many there are. -/
def afterBlocks : Nat → Words → List UInt8 → Words
  | 0, words, _ => words
  | fuel + 1, words, bytes =>
    if bytes.isEmpty then words
    else afterBlocks fuel (afterBlock words (bytes.take 64)) (bytes.drop 64)

/-- The older fingerprint of a text. -/
def md5 (text : Bytes) : Bytes :=
  let size := text.length
  let padded := text ++ 0x80 :: List.replicate ((119 - size % 64) % 64) 0
    ++ littleEndian 8 (8 * size)
  let words := afterBlocks (padded.length / 64 + 1) ⟨0x67452301, 0xEFCDAB89, 0x98BADCFE, 0x10325476⟩
    padded
  [words.a, words.b, words.c, words.d].flatMap fun word => littleEndian 4 word.toNat

/-- A remainder with one more byte in front of it. -/
def divided (remainder : UInt32) (b : UInt8) : UInt32 :=
  (List.range 8).foldl
    (fun (remainder : UInt32) _ =>
      if 0x80000000 ≤ remainder then remainder <<< 1 ^^^ 0x04C11DB7 else remainder <<< 1)
    (remainder ^^^ b.toUInt32 <<< 24)

/-- The remainder of a text and its length, as of one long number. -/
def remainder (text : Bytes) : UInt32 :=
  let rec size : Nat → Nat → Bytes
    | 0, _ => []
    | _, 0 => []
    | fuel + 1, count => UInt8.ofNat (count % 256) :: size fuel (count / 256)
  ~~~((text ++ size 8 text.length).foldl divided 0)

end ChangelogSql.Utility.Fingerprint
