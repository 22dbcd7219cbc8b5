import PlumeForm.Text.CodeRow

/-!
# Characters that two others make up

The precomposed characters that a domain name may hold, each with the two characters that it is made
of: a letter and a mark, or a precomposed character and one more mark. Syllables of Hangul are made
up by a rule and have no row.
-/

namespace PlumeForm.Text

/-- The precomposed characters below U+1E00. -/
def precomposedRows : List CodeRow :=
  [⟨0xE0, "a\u0300|a\u0301|a\u0302|a\u0303|a\u0308|a\u030a||c\u0327|e\u0300|e\u0301|e\u0302"⟩,
    ⟨0xEB, "e\u0308|i\u0300|i\u0301|i\u0302|i\u0308||n\u0303|o\u0300|o\u0301|o\u0302|o\u0303"⟩,
    ⟨0xF6, "o\u0308|||u\u0300|u\u0301|u\u0302|u\u0308|y\u0301||y\u0308||a\u0304||a\u0306"⟩,
    ⟨0x105, "a\u0328||c\u0301||c\u0302||c\u0307||c\u030c||d\u030c"⟩,
    ⟨0x113, "e\u0304||e\u0306||e\u0307||e\u0328||e\u030c||g\u0302||g\u0306||g\u0307||g\u0327"⟩,
    ⟨0x125, "h\u0302"⟩,
    ⟨0x129, "i\u0303||i\u0304||i\u0306||i\u0328"⟩,
    ⟨0x135, "j\u0302||k\u0327|||l\u0301||l\u0327||l\u030c"⟩,
    ⟨0x144, "n\u0301||n\u0327||n\u030c"⟩,
    ⟨0x14D, "o\u0304||o\u0306||o\u030b"⟩,
    ⟨0x155, "r\u0301||r\u0327||r\u030c||s\u0301||s\u0302||s\u0327||s\u030c||t\u0327||t\u030c"⟩,
    ⟨0x169, "u\u0303||u\u0304||u\u0306||u\u030a||u\u030b||u\u0328||w\u0302||y\u0302|||z\u0301"⟩,
    ⟨0x17C, "z\u0307||z\u030c"⟩,
    ⟨0x1A1, "o\u031b"⟩,
    ⟨0x1B0, "u\u031b"⟩,
    ⟨0x1CE, "a\u030c||i\u030c||o\u030c||u\u030c||ü\u0304||ü\u0301||ü\u030c||ü\u0300|||ä\u0304"⟩,
    ⟨0x1E1, "ȧ\u0304||æ\u0304"⟩,
    ⟨0x1E7, "g\u030c||k\u030c||o\u0328||ǫ\u0304||ʒ\u030c|j\u030c"⟩,
    ⟨0x1F5, "g\u0301"⟩,
    ⟨0x1F9, "n\u0300||å\u0301||æ\u0301||ø\u0301||a\u030f||a\u0311||e\u030f||e\u0311||i\u030f"⟩,
    ⟨0x20B, "i\u0311||o\u030f||o\u0311||r\u030f||r\u0311||u\u030f||u\u0311||s\u0326||t\u0326"⟩,
    ⟨0x21F, "h\u030c"⟩,
    ⟨0x227, "a\u0307||e\u0327||ö\u0304||õ\u0304||o\u0307||ȯ\u0304||y\u0304"⟩,
    ⟨0x390, "ϊ\u0301"⟩,
    ⟨0x3AC, "α\u0301|ε\u0301|η\u0301|ι\u0301|ϋ\u0301"⟩,
    ⟨0x3CA, "ι\u0308|υ\u0308|ο\u0301|υ\u0301|ω\u0301"⟩,
    ⟨0x439, "и\u0306"⟩,
    ⟨0x450, "е\u0300|е\u0308||г\u0301"⟩,
    ⟨0x457, "і\u0308"⟩,
    ⟨0x45C, "к\u0301|и\u0300|у\u0306"⟩,
    ⟨0x477, "ѵ\u030f"⟩,
    ⟨0x4C2, "ж\u0306"⟩,
    ⟨0x4D1, "а\u0306||а\u0308"⟩,
    ⟨0x4D7, "е\u0306"⟩,
    ⟨0x4DB, "ә\u0308||ж\u0308||з\u0308"⟩,
    ⟨0x4E3, "и\u0304||и\u0308||о\u0308"⟩,
    ⟨0x4EB, "ө\u0308||э\u0308||у\u0304||у\u0308||у\u030b||ч\u0308"⟩,
    ⟨0x4F9, "ы\u0308"⟩,
    ⟨0x622, "\u0627\u0653|\u0627\u0654|\u0648\u0654|\u0627\u0655|\u064a\u0654"⟩,
    ⟨0x6C0, "\u06d5\u0654||\u06c1\u0654"⟩,
    ⟨0x6D3, "\u06d2\u0654"⟩,
    ⟨0x929, "न\u093c"⟩,
    ⟨0x931, "र\u093c|||ळ\u093c"⟩,
    ⟨0x9CB, "\u09c7\u09be|\u09c7\u09d7"⟩,
    ⟨0xB48, "\u0b47\u0b56|||\u0b47\u0b3e|\u0b47\u0b57"⟩,
    ⟨0xB94, "ஒ\u0bd7"⟩,
    ⟨0xBCA, "\u0bc6\u0bbe|\u0bc7\u0bbe|\u0bc6\u0bd7"⟩,
    ⟨0xC48, "\u0c46\u0c56"⟩,
    ⟨0xCC0, "\u0cbf\u0cd5"⟩,
    ⟨0xCC7, "\u0cc6\u0cd5|\u0cc6\u0cd6||\u0cc6\u0cc2|\u0cca\u0cd5"⟩,
    ⟨0xD4A, "\u0d46\u0d3e|\u0d47\u0d3e|\u0d46\u0d57"⟩,
    ⟨0xDDA, "\u0dd9\u0dca||\u0dd9\u0dcf|\u0ddc\u0dca|\u0dd9\u0ddf"⟩,
    ⟨0x1026, "ဥ\u102e"⟩,
    ⟨0x1B06, "ᬅ\u1b35||ᬇ\u1b35||ᬉ\u1b35||ᬋ\u1b35||ᬍ\u1b35"⟩,
    ⟨0x1B12, "ᬑ\u1b35"⟩,
    ⟨0x1B3B, "\u1b3a\u1b35||\u1b3c\u1b35|||\u1b3e\u1b35|\u1b3f\u1b35||\u1b42\u1b35"⟩]

/-- The precomposed characters from U+1E00 on. -/
def precomposedRowsBeyond : List CodeRow :=
  [⟨0x1E01, "a\u0325||b\u0307||b\u0323||b\u0331||ç\u0301||d\u0307||d\u0323||d\u0331||d\u0327"⟩,
    ⟨0x1E13, "d\u032d||ē\u0300||ē\u0301||e\u032d||e\u0330||ȩ\u0306||f\u0307||g\u0304||h\u0307"⟩,
    ⟨0x1E25, "h\u0323||h\u0308||h\u0327||h\u032e||i\u0330||ï\u0301||k\u0301||k\u0323||k\u0331"⟩,
    ⟨0x1E37, "l\u0323||ḷ\u0304||l\u0331||l\u032d||m\u0301||m\u0307||m\u0323||n\u0307||n\u0323"⟩,
    ⟨0x1E49, "n\u0331||n\u032d||õ\u0301||õ\u0308||ō\u0300||ō\u0301||p\u0301||p\u0307||r\u0307"⟩,
    ⟨0x1E5B, "r\u0323||ṛ\u0304||r\u0331||s\u0307||s\u0323||ś\u0307||š\u0307||ṣ\u0307||t\u0307"⟩,
    ⟨0x1E6D, "t\u0323||t\u0331||t\u032d||u\u0324||u\u0330||u\u032d||ũ\u0301||ū\u0308||v\u0303"⟩,
    ⟨0x1E7F, "v\u0323||w\u0300||w\u0301||w\u0308||w\u0307||w\u0323||x\u0307||x\u0308||y\u0307"⟩,
    ⟨0x1E91, "z\u0302||z\u0323||z\u0331|h\u0331|t\u0308|w\u030a|y\u030a"⟩,
    ⟨0x1EA1, "a\u0323||a\u0309||â\u0301||â\u0300||â\u0309||â\u0303||ạ\u0302||ă\u0301||ă\u0300"⟩,
    ⟨0x1EB3, "ă\u0309||ă\u0303||ạ\u0306||e\u0323||e\u0309||e\u0303||ê\u0301||ê\u0300||ê\u0309"⟩,
    ⟨0x1EC5, "ê\u0303||ẹ\u0302||i\u0309||i\u0323||o\u0323||o\u0309||ô\u0301||ô\u0300||ô\u0309"⟩,
    ⟨0x1ED7, "ô\u0303||ọ\u0302||ơ\u0301||ơ\u0300||ơ\u0309||ơ\u0303||ơ\u0323||u\u0323||u\u0309"⟩,
    ⟨0x1EE9, "ư\u0301||ư\u0300||ư\u0309||ư\u0303||ư\u0323||y\u0300||y\u0323||y\u0309||y\u0303"⟩,
    ⟨0x1F00, "α\u0313|α\u0314|ἀ\u0300|ἁ\u0300|ἀ\u0301|ἁ\u0301|ἀ\u0342|ἁ\u0342"⟩,
    ⟨0x1F10, "ε\u0313|ε\u0314|ἐ\u0300|ἑ\u0300|ἐ\u0301|ἑ\u0301"⟩,
    ⟨0x1F20, "η\u0313|η\u0314|ἠ\u0300|ἡ\u0300|ἠ\u0301|ἡ\u0301|ἠ\u0342|ἡ\u0342"⟩,
    ⟨0x1F30, "ι\u0313|ι\u0314|ἰ\u0300|ἱ\u0300|ἰ\u0301|ἱ\u0301|ἰ\u0342|ἱ\u0342"⟩,
    ⟨0x1F40, "ο\u0313|ο\u0314|ὀ\u0300|ὁ\u0300|ὀ\u0301|ὁ\u0301"⟩,
    ⟨0x1F50, "υ\u0313|υ\u0314|ὐ\u0300|ὑ\u0300|ὐ\u0301|ὑ\u0301|ὐ\u0342|ὑ\u0342"⟩,
    ⟨0x1F60, "ω\u0313|ω\u0314|ὠ\u0300|ὡ\u0300|ὠ\u0301|ὡ\u0301|ὠ\u0342|ὡ\u0342"⟩,
    ⟨0x1F70, "α\u0300||ε\u0300||η\u0300||ι\u0300||ο\u0300||υ\u0300||ω\u0300"⟩,
    ⟨0x1FB0, "α\u0306|α\u0304"⟩,
    ⟨0x1FB6, "α\u0342"⟩,
    ⟨0x1FC6, "η\u0342"⟩,
    ⟨0x1FD0, "ι\u0306|ι\u0304|ϊ\u0300"⟩,
    ⟨0x1FD6, "ι\u0342|ϊ\u0342"⟩,
    ⟨0x1FE0, "υ\u0306|υ\u0304|ϋ\u0300||ρ\u0313|ρ\u0314|υ\u0342|ϋ\u0342"⟩,
    ⟨0x1FF6, "ω\u0342"⟩,
    ⟨0x219A, "←\u0338|→\u0338"⟩,
    ⟨0x21AE, "↔\u0338"⟩,
    ⟨0x21CD, "⇐\u0338|⇔\u0338|⇒\u0338"⟩,
    ⟨0x2204, "∃\u0338"⟩,
    ⟨0x2209, "∈\u0338|||∋\u0338"⟩,
    ⟨0x2224, "∣\u0338||∥\u0338"⟩,
    ⟨0x2241, "∼\u0338|||≃\u0338|||≅\u0338||≈\u0338"⟩,
    ⟨0x2260, "=\u0338||≡\u0338"⟩,
    ⟨0x226D, "≍\u0338|<\u0338|>\u0338|≤\u0338|≥\u0338|||≲\u0338|≳\u0338|||≶\u0338|≷\u0338"⟩,
    ⟨0x2280, "≺\u0338|≻\u0338|||⊂\u0338|⊃\u0338|||⊆\u0338|⊇\u0338"⟩,
    ⟨0x22AC, "⊢\u0338|⊨\u0338|⊩\u0338|⊫\u0338"⟩,
    ⟨0x22E0, "≼\u0338|≽\u0338|⊑\u0338|⊒\u0338"⟩,
    ⟨0x22EA, "⊲\u0338|⊳\u0338|⊴\u0338|⊵\u0338"⟩,
    ⟨0x304C, "か\u3099||き\u3099||く\u3099||け\u3099||こ\u3099||さ\u3099||し\u3099||す\u3099||せ\u3099"⟩,
    ⟨0x305E, "そ\u3099||た\u3099||ち\u3099|||つ\u3099||て\u3099||と\u3099"⟩,
    ⟨0x3070, "は\u3099|は\u309a||ひ\u3099|ひ\u309a||ふ\u3099|ふ\u309a||へ\u3099|へ\u309a||ほ\u3099"⟩,
    ⟨0x307D, "ほ\u309a"⟩,
    ⟨0x3094, "う\u3099"⟩,
    ⟨0x309E, "ゝ\u3099"⟩,
    ⟨0x30AC, "カ\u3099||キ\u3099||ク\u3099||ケ\u3099||コ\u3099||サ\u3099||シ\u3099||ス\u3099||セ\u3099"⟩,
    ⟨0x30BE, "ソ\u3099||タ\u3099||チ\u3099|||ツ\u3099||テ\u3099||ト\u3099"⟩,
    ⟨0x30D0, "ハ\u3099|ハ\u309a||ヒ\u3099|ヒ\u309a||フ\u3099|フ\u309a||ヘ\u3099|ヘ\u309a||ホ\u3099"⟩,
    ⟨0x30DD, "ホ\u309a"⟩,
    ⟨0x30F4, "ウ\u3099|||ワ\u3099|ヰ\u3099|ヱ\u3099|ヲ\u3099"⟩,
    ⟨0x30FE, "ヽ\u3099"⟩,
    ⟨0x105C9, "𐗒\u0307"⟩,
    ⟨0x105E4, "𐗚\u0307"⟩,
    ⟨0x1109A, "𑂚||𑂜"⟩,
    ⟨0x110AB, "𑂫"⟩,
    ⟨0x1112E, "𑄮|𑄯"⟩,
    ⟨0x1134B, "𑍋|𑍌"⟩,
    ⟨0x11383, "𑎃||𑎅"⟩,
    ⟨0x1138E, "𑎎|||𑎑"⟩,
    ⟨0x113C5, "𑏅||𑏇|𑏈"⟩,
    ⟨0x114BB, "𑒻|𑒼||𑒾"⟩,
    ⟨0x115BA, "𑖺|𑖻"⟩,
    ⟨0x11938, "𑤸"⟩,
    ⟨0x16121, "𖄡|𖄢|𖄣|𖄤|𖄥|𖄦|𖄧|𖄨"⟩,
    ⟨0x16D68, "𖵨|𖵩|𖵪"⟩]

/-- Every precomposed character. -/
def precomposedTable : CodeTable :=
  CodeTable.ofRows (precomposedRows ++ precomposedRowsBeyond)

end PlumeForm.Text
