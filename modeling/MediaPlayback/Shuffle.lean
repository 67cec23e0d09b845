/-! Shuffling with a stream of random words. From the last place down to the second, each entry is
exchanged with one at a place not behind it, which is drawn evenly; a word that would favour some
places is thrown away and the next one taken. -/

namespace MediaPlayback

/-- A source of random words: the ones listed, and zeros after them. -/
abbrev Entropy := List UInt32

namespace Shuffle

/-- The largest low half of a product for which `below n` uses the word: `n`, moved up until its
highest bit is bit 31, less one. -/
def zone (n : Nat) : Nat := n * Nat.pow 2 (31 - n.log2) - 1

/-- Draws a number below `n`: the high half of a word's product with `n`, unless the low half is
beyond the zone. -/
def below (n : Nat) : Entropy → Nat × Entropy
  | [] => (0, [])
  | word :: rest =>
    let product := word.toNat * n
    if product % UInt32.size ≤ zone n then (product / UInt32.size, rest) else below n rest

/-- The exchanges at places `i` down to 1. -/
def exchange {α : Type} : Nat → Array α → Entropy → Array α × Entropy
  | 0, xs, words => (xs, words)
  | i + 1, xs, words =>
    let (j, words) := below (i + 2) words
    exchange i (xs.swapIfInBounds (i + 1) j) words

end Shuffle

/-- The entries in a random order, and the words that are left. -/
def shuffle {α : Type} (xs : List α) (words : Entropy) : List α × Entropy :=
  let (ys, words) := Shuffle.exchange (xs.length - 1) xs.toArray words
  (ys.toList, words)

end MediaPlayback
