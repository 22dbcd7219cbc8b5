import PlumeForm.Text.CodeRow

/-!
# Letters and symbols that are spelled with others

What names are spelled with instead of capitals, ligatures, variants of shape, letters in circles
and words in squares. Letters that belong to a run of letters have no row here, nor has anything
that would be spelled with a character that no name may hold.
-/

namespace PlumeForm.Domain

/-- Letters and marks below U+2000. -/
def letterRows : List Text.CodeRow :=
  [⟨0xAA, "a"⟩,
    ⟨0xB2, "2|3||μ"⟩,
    ⟨0xB9, "1|o||1⁄4|1⁄2|3⁄4"⟩,
    ⟨0x130, "i\u0307||ij|ij|ĵ||ķ|||ĺ||ļ||ľ||l·|l·"⟩,
    ⟨0x149, "ʼn"⟩,
    ⟨0x178, "ÿ|ź||ż||ž||s||ɓ|ƃ||ƅ||ɔ|ƈ||ɖ|ɗ|ƌ|||ǝ|ə|ɛ|ƒ||ɠ|ɣ||ɩ|ɨ|ƙ"⟩,
    ⟨0x19C, "ɯ|ɲ||ɵ|ơ||ƣ||ƥ||ʀ|ƨ||ʃ|||ƭ||ʈ|ư||ʊ|ʋ|ƴ||ƶ||ʒ|ƹ"⟩,
    ⟨0x1BC, "ƽ"⟩,
    ⟨0x1C4, "dž|dž|dž|lj|lj|lj|nj|nj|nj"⟩,
    ⟨0x1F1, "dz|dz|dz|ǵ||ƕ|ƿ"⟩,
    ⟨0x220, "ƞ"⟩,
    ⟨0x23A, "ⱥ|ȼ||ƚ|ⱦ|||ɂ||ƀ|ʉ|ʌ"⟩,
    ⟨0x2B0, "h|ɦ|j|r|ɹ|ɻ|ʁ|w|y"⟩,
    ⟨0x2E0, "ɣ|l|s|x|ʕ"⟩,
    ⟨0x340, "\u0300|\u0301||\u0313|\u0308\u0301|ι"⟩,
    ⟨0x370, "ͱ||ͳ||ʹ||ͷ"⟩,
    ⟨0x37E, ";|ϳ"⟩,
    ⟨0x386, "ά|·|έ|ή|ί||ό||ύ|ώ"⟩,
    ⟨0x3CF, "ϗ|β|θ|υ|ύ|ϋ|φ|π"⟩,
    ⟨0x3F0, "κ|ρ|σ||θ|ε||ϸ||σ|ϻ|||ͻ|ͼ|ͽ"⟩,
    ⟨0x4C0, "ӏ"⟩,
    ⟨0x587, "եւ"⟩,
    ⟨0x675, "\u0627\u0674|\u0648\u0674|\u06c7\u0674|\u064a\u0674"⟩,
    ⟨0x958, "क\u093c|ख\u093c|ग\u093c|ज\u093c|ड\u093c|ढ\u093c|फ\u093c|य\u093c"⟩,
    ⟨0x9DC, "ড\u09bc|ঢ\u09bc||য\u09bc"⟩,
    ⟨0xA33, "ਲ\u0a3c|||ਸ\u0a3c"⟩,
    ⟨0xA59, "ਖ\u0a3c|ਗ\u0a3c|ਜ\u0a3c|||ਫ\u0a3c"⟩,
    ⟨0xB5C, "ଡ\u0b3c|ଢ\u0b3c"⟩,
    ⟨0xE33, "\u0e4dา"⟩,
    ⟨0xEB3, "\u0ecdາ"⟩,
    ⟨0xEDC, "ຫນ|ຫມ"⟩,
    ⟨0xF0C, "་"⟩,
    ⟨0xF43, "ག\u0fb7"⟩,
    ⟨0xF4D, "ཌ\u0fb7"⟩,
    ⟨0xF52, "ད\u0fb7"⟩,
    ⟨0xF57, "བ\u0fb7"⟩,
    ⟨0xF5C, "ཛ\u0fb7"⟩,
    ⟨0xF69, "ཀ\u0fb5"⟩,
    ⟨0xF73, "\u0f71\u0f72||\u0f71\u0f74|\u0fb2\u0f80|\u0fb2\u0f71\u0f80|\u0fb3\u0f80"⟩,
    ⟨0xF79, "\u0fb3\u0f71\u0f80"⟩,
    ⟨0xF81, "\u0f71\u0f80"⟩,
    ⟨0xF93, "\u0f92\u0fb7"⟩,
    ⟨0xF9D, "\u0f9c\u0fb7"⟩,
    ⟨0xFA2, "\u0fa1\u0fb7"⟩,
    ⟨0xFA7, "\u0fa6\u0fb7"⟩,
    ⟨0xFAC, "\u0fab\u0fb7"⟩,
    ⟨0xFB9, "\u0f90\u0fb5"⟩,
    ⟨0x10C7, "ⴧ"⟩,
    ⟨0x10CD, "ⴭ"⟩,
    ⟨0x10FC, "ნ"⟩,
    ⟨0x1C80, "в|д|о|с|т|т|ъ|ѣ|ꙋ|ᲊ"⟩,
    ⟨0x1CBD, "ჽ|ჾ|ჿ"⟩,
    ⟨0x1D2C, "a|æ|b||d||ǝ"⟩,
    ⟨0x1D3C, "o|ȣ|p|r|t|u|w|a|ɐ|ɑ|ᴂ|b|d|e|ə|ɛ|ɜ|g||k|m|ŋ|o|ɔ|ᴖ|ᴗ|p|t|u|ᴝ|ɯ|v|ᴥ|β|γ|δ|φ|χ|i|r|u"⟩,
    ⟨0x1D65, "v|β|γ|ρ|φ|χ"⟩,
    ⟨0x1D78, "н"⟩,
    ⟨0x1D9B, "ɒ|c|ɕ|ð|ɜ|f|ɟ|ɡ|ɥ|ɨ|ɩ|ɪ|ᵻ|ʝ|ɭ|ᶅ|ʟ|ɱ|ɰ"⟩,
    ⟨0x1DB2, "ɸ|ʂ|ʃ|ƫ|ʉ|ʊ|ᴜ|ʋ|ʌ|z|ʐ|ʑ|ʒ|θ"⟩,
    ⟨0x1E9A, "aʾ|ṡ|||ß"⟩,
    ⟨0x1F71, "ά||έ||ή||ί||ό||ύ||ώ|||ἀι|ἁι|ἂι|ἃι|ἄι|ἅι|ἆι|ἇι|ἀι|ἁι|ἂι|ἃι|ἄι|ἅι|ἆι|ἇι|ἠι|ἡι|ἢι"⟩,
    ⟨0x1F93, "ἣι|ἤι|ἥι|ἦι|ἧι|ἠι|ἡι|ἢι|ἣι|ἤι|ἥι|ἦι|ἧι|ὠι|ὡι|ὢι|ὣι|ὤι|ὥι|ὦι|ὧι|ὠι|ὡι|ὢι|ὣι|ὤι|ὥι"⟩,
    ⟨0x1FAE, "ὦι|ὧι|||ὰι|αι|άι|||ᾶι|ᾰ|ᾱ|ὰ|ά|αι||ι"⟩,
    ⟨0x1FC2, "ὴι|ηι|ήι|||ῆι|ὲ|έ|ὴ|ή|ηι"⟩,
    ⟨0x1FD3, "ΐ"⟩,
    ⟨0x1FD8, "ῐ|ῑ|ὶ|ί"⟩,
    ⟨0x1FE3, "ΰ"⟩,
    ⟨0x1FE8, "ῠ|ῡ|ὺ|ύ|ῥ|||\x60|||ὼι|ωι|ώι|||ῶι|ὸ|ό|ὼ|ώ|ωι"⟩]

/-- Symbols and letters from U+2000 up to below U+3000. -/
def symbolRows : List Text.CodeRow :=
  [⟨0x2011, "‐"⟩,
    ⟨0x2033, "′′|′′′||‵‵|‵‵‵"⟩,
    ⟨0x203C, "!!"⟩,
    ⟨0x2057, "′′′′"⟩,
    ⟨0x2070, "0|i"⟩,
    ⟨0x207A, "+|−|=|(|)|n"⟩,
    ⟨0x208A, "+|−|=|(|)||a|e|o|x|ə|h"⟩,
    ⟨0x209A, "p|s|t"⟩,
    ⟨0x20A8, "rs"⟩,
    ⟨0x2102, "c|°c"⟩,
    ⟨0x2107, "ɛ||°f|g|h|h|h|h|ħ|i|i|l|l||n|no|||p|q|r|r|r|||sm|tel|tm||z||ω||z||k|å|b|c||e|e|f"⟩,
    ⟨0x2132, "ⅎ|m|o"⟩,
    ⟨0x2139, "i||fax|π|γ|γ|π|∑"⟩,
    ⟨0x2145, "d|d|e|i|j"⟩,
    ⟨0x2150, "1⁄7|1⁄9|1⁄10|1⁄3|2⁄3|1⁄5|2⁄5|3⁄5|4⁄5|1⁄6|5⁄6|1⁄8|3⁄8|5⁄8|7⁄8|1⁄|i|ii|iii|iv|v|vi"⟩,
    ⟨0x2166, "vii|viii|ix|x|xi|xii|l|c|d|m|i|ii|iii|iv|v|vi|vii|viii|ix|x|xi|xii|l|c|d|m"⟩,
    ⟨0x2183, "ↄ"⟩,
    ⟨0x2189, "0⁄3"⟩,
    ⟨0x222C, "∫∫|∫∫∫||∮∮|∮∮∮"⟩,
    ⟨0x2329, "〈|〉"⟩,
    ⟨0x2469, "10|11|12|13|14|15|16|17|18|19|20|(1)|(2)|(3)|(4)|(5)|(6)|(7)|(8)|(9)|(10)|(11)"⟩,
    ⟨0x247F, "(12)|(13)|(14)|(15)|(16)|(17)|(18)|(19)|(20)"⟩,
    ⟨0x249C, "(a)|(b)|(c)|(d)|(e)|(f)|(g)|(h)|(i)|(j)|(k)|(l)|(m)|(n)|(o)|(p)|(q)|(r)|(s)|(t)"⟩,
    ⟨0x24B0, "(u)|(v)|(w)|(x)|(y)|(z)"⟩,
    ⟨0x24EA, "0"⟩,
    ⟨0x2A0C, "∫∫∫∫"⟩,
    ⟨0x2A75, "==|==="⟩,
    ⟨0x2ADC, "⫝\u0338"⟩,
    ⟨0x2C60, "ⱡ||ɫ|ᵽ|ɽ|||ⱨ||ⱪ||ⱬ||ɑ|ɱ|ɐ|ɒ||ⱳ|||ⱶ"⟩,
    ⟨0x2C7C, "j|v|ȿ|ɀ"⟩,
    ⟨0x2CEB, "ⳬ||ⳮ"⟩,
    ⟨0x2CF2, "ⳳ"⟩,
    ⟨0x2D6F, "ⵡ"⟩]

/-- Symbols of East Asia from U+3000 up to below U+A000. -/
def squaredRows : List Text.CodeRow :=
  [⟨0x3002, "."⟩,
    ⟨0x3036, "〒||十|卄|卅"⟩,
    ⟨0x309F, "より"⟩,
    ⟨0x30FF, "コト"⟩,
    ⟨0x3131, "ᄀ|ᄁ|ᆪ|ᄂ|ᆬ|ᆭ|ᄃ|ᄄ|ᄅ"⟩,
    ⟨0x3140, "ᄚ|ᄆ|ᄇ|ᄈ|ᄡ"⟩,
    ⟨0x3165, "ᄔ|ᄕ|ᇇ|ᇈ|ᇌ|ᇎ|ᇓ|ᇗ|ᇙ|ᄜ|ᇝ|ᇟ|ᄝ|ᄞ|ᄠ|ᄢ|ᄣ|ᄧ|ᄩ"⟩,
    ⟨0x317D, "ᄲ|ᄶ|ᅀ|ᅇ|ᅌ|ᇱ|ᇲ|ᅗ|ᅘ|ᅙ|ᆄ|ᆅ|ᆈ|ᆑ|ᆒ|ᆔ|ᆞ|ᆡ"⟩,
    ⟨0x3192, "一|二|三|四|上|中|下|甲|乙|丙|丁|天|地|人"⟩,
    ⟨0x3200, "(ᄀ)|(ᄂ)|(ᄃ)|(ᄅ)|(ᄆ)|(ᄇ)|(ᄉ)|(ᄋ)|(ᄌ)|(ᄎ)|(ᄏ)|(ᄐ)|(ᄑ)|(ᄒ)|(가)|(나)|(다)|(라)|(마)|(바)"⟩,
    ⟨0x3214, "(사)|(아)|(자)|(차)|(카)|(타)|(파)|(하)|(주)|(오전)|(오후)||(一)|(二)|(三)|(四)|(五)|(六)|(七)|(八)"⟩,
    ⟨0x3228, "(九)|(十)|(月)|(火)|(水)|(木)|(金)|(土)|(日)|(株)|(有)|(社)|(名)|(特)|(財)|(祝)|(労)|(代)|(呼)|(学)"⟩,
    ⟨0x323C, "(監)|(企)|(資)|(協)|(祭)|(休)|(自)|(至)|問|幼|文|箏"⟩,
    ⟨0x3250, "pte|21|22|23|24|25|26|27|28|29|30|31|32|33|34|35|ᄀ|ᄂ|ᄃ|ᄅ|ᄆ|ᄇ|ᄉ|ᄋ|ᄌ"⟩,
    ⟨0x326E, "가|나|다|라|마|바|사|아|자|차|카|타|파|하|참고|주의|우||一|二|三|四|五|六|七|八|九|十|月|火|水|木|金|土|日|株|有|社|名|特"⟩,
    ⟨0x3296, "財|祝|労|秘|男|女|適|優|印|注|項|休|写|正|上|中|下|左|右|医|宗|学|監|企|資|協|夜|36|37|38|39|40|41|42|43|44"⟩,
    ⟨0x32BA, "45|46|47|48|49|50|1月|2月|3月|4月|5月|6月|7月|8月|9月|10月|11月|12月|hg|erg|ev|ltd|ア|イ|ウ|エ|オ"⟩,
    ⟨0x32D5, "カ|キ|ク|ケ|コ|サ|シ|ス|セ|ソ|タ|チ|ツ|テ|ト"⟩,
    ⟨0x32EA, "ヒ|フ|ヘ|ホ"⟩,
    ⟨0x32F3, "ヤ|ユ"⟩,
    ⟨0x32FF, "令和|アパート|アルファ|アンペア|アール|イニング|インチ|ウォン|エスクード|エーカー|オンス|オーム|カイリ|カラット|カロリー|ガロン|ガンマ|ギガ"⟩,
    ⟨0x3311, "ギニー|キュリー|ギルダー|キロ|キログラム|キロメートル|キロワット|グラム|グラムトン|クルゼイロ|クローネ|ケース|コルナ|コーポ|サイクル|サンチーム"⟩,
    ⟨0x3321, "シリング|センチ|セント|ダース|デシ|ドル|トン|ナノ|ノット|ハイツ|パーセント|パーツ|バーレル|ピアストル|ピクル|ピコ|ビル|ファラッド|フィート"⟩,
    ⟨0x3334, "ブッシェル|フラン|ヘクタール|ペソ|ペニヒ|ヘルツ|ペンス|ページ|ベータ|ポイント|ボルト|ホン|ポンド|ホール|ホーン|マイクロ|マイル|マッハ|マルク"⟩,
    ⟨0x3347, "マンション|ミクロン|ミリ|ミリバール|メガ|メガトン|メートル|ヤード|ヤール|ユアン|リットル|リラ|ルピー|ルーブル|レム|レントゲン|ワット|0点|1点"⟩,
    ⟨0x335A, "2点|3点|4点|5点|6点|7点|8点|9点|10点|11点|12点|13点|14点|15点|16点|17点|18点|19点|20点|21点|22点|23点"⟩,
    ⟨0x3370, "24点|hpa|da|au|bar|ov|pc|dm|dm2|dm3|iu|平成|昭和|大正|明治|株式会社|pa|na|μa|ma|ka|kb|mb|gb"⟩,
    ⟨0x3388, "cal|kcal|pf|nf|μf|μg|mg|kg|hz|khz|mhz|ghz|thz|μl|ml|dl|kl|fm|nm|μm|mm|cm|km|mm2"⟩,
    ⟨0x33A0, "cm2|m2|km2|mm3|cm3|m3|km3|m∕s|m∕s2|pa|kpa|mpa|gpa|rad|rad∕s|rad∕s2|ps|ns|μs|ms"⟩,
    ⟨0x33B4, "pv|nv|μv|mv|kv|mv|pw|nw|μw|mw|kw|mw|kω|mω||bq|cc|cd|c∕kg||db|gy|ha|hp|in|kk|km"⟩,
    ⟨0x33CF, "kt|lm|ln|log|lx|mb|mil|mol|ph||ppm|pr|sr|sv|wb|v∕m|a∕m|1日|2日|3日|4日|5日|6日|7日|8日"⟩,
    ⟨0x33E8, "9日|10日|11日|12日|13日|14日|15日|16日|17日|18日|19日|20日|21日|22日|23日|24日|25日|26日|27日|28日"⟩,
    ⟨0x33FC, "29日|30日|31日|gal"⟩]

/-- Letters and variants of shape from U+A000 on. -/
def variantRows : List Text.CodeRow :=
  [⟨0xA69C, "ъ|ь"⟩,
    ⟨0xA770, "ꝯ"⟩,
    ⟨0xA779, "ꝺ||ꝼ||ᵹ"⟩,
    ⟨0xA78B, "ꞌ||ɥ|||ꞑ||ꞓ"⟩,
    ⟨0xA7AA, "ɦ|ɜ|ɡ|ɬ|ɪ||ʞ|ʇ|ʝ|ꭓ"⟩,
    ⟨0xA7C4, "ꞔ|ʂ|ᶎ|ꟈ||ꟊ||ɤ"⟩,
    ⟨0xA7DC, "ƛ"⟩,
    ⟨0xA7F1, "s|c|f|q|ꟶ|||ħ|œ"⟩,
    ⟨0xAB5C, "ꜧ|ꬷ|ɫ|ꭒ"⟩,
    ⟨0xAB69, "ʍ"⟩,
    ⟨0xFB00, "ff|fi|fl|ffi|ffl|st|st"⟩,
    ⟨0xFB13, "մն|մե|մի|վն|մխ"⟩,
    ⟨0xFB1D, "\u05d9\u05b4||\u05f2\u05b7|\u05e2|\u05d0|\u05d3|\u05d4|\u05db|\u05dc|\u05dd"⟩,
    ⟨0xFB27, "\u05e8|\u05ea|+|\u05e9\u05c1|\u05e9\u05c2|\u05e9\u05bc\u05c1|\u05e9\u05bc\u05c2"⟩,
    ⟨0xFB2E, "\u05d0\u05b7|\u05d0\u05b8|\u05d0\u05bc|\u05d1\u05bc|\u05d2\u05bc|\u05d3\u05bc"⟩,
    ⟨0xFB34, "\u05d4\u05bc|\u05d5\u05bc|\u05d6\u05bc||\u05d8\u05bc|\u05d9\u05bc|\u05da\u05bc"⟩,
    ⟨0xFB3B, "\u05db\u05bc|\u05dc\u05bc||\u05de\u05bc||\u05e0\u05bc|\u05e1\u05bc||\u05e3\u05bc"⟩,
    ⟨0xFB44, "\u05e4\u05bc||\u05e6\u05bc|\u05e7\u05bc|\u05e8\u05bc|\u05e9\u05bc|\u05ea\u05bc"⟩,
    ⟨0xFB4B, "\u05d5\u05b9|\u05d1\u05bf|\u05db\u05bf|\u05e4\u05bf|\u05d0\u05dc|\u0671|\u0671"⟩,
    ⟨0xFB52, "\u067b|\u067b|\u067b|\u067b|\u067e|\u067e|\u067e|\u067e|\u0680|\u0680|\u0680"⟩,
    ⟨0xFB5D, "\u0680|\u067a|\u067a|\u067a|\u067a|\u067f|\u067f|\u067f|\u067f|\u0679|\u0679"⟩,
    ⟨0xFB68, "\u0679|\u0679|\u06a4|\u06a4|\u06a4|\u06a4|\u06a6|\u06a6|\u06a6|\u06a6|\u0684"⟩,
    ⟨0xFB73, "\u0684|\u0684|\u0684|\u0683|\u0683|\u0683|\u0683|\u0686|\u0686|\u0686|\u0686"⟩,
    ⟨0xFB7E, "\u0687|\u0687|\u0687|\u0687|\u068d|\u068d|\u068c|\u068c|\u068e|\u068e|\u0688"⟩,
    ⟨0xFB89, "\u0688|\u0698|\u0698|\u0691|\u0691|\u06a9|\u06a9|\u06a9|\u06a9|\u06af|\u06af"⟩,
    ⟨0xFB94, "\u06af|\u06af|\u06b3|\u06b3|\u06b3|\u06b3|\u06b1|\u06b1|\u06b1|\u06b1|\u06ba"⟩,
    ⟨0xFB9F, "\u06ba|\u06bb|\u06bb|\u06bb|\u06bb|\u06c0|\u06c0|\u06c1|\u06c1|\u06c1|\u06c1"⟩,
    ⟨0xFBAA, "\u06be|\u06be|\u06be|\u06be|\u06d2|\u06d2|\u06d3|\u06d3"⟩,
    ⟨0xFBD3, "\u06ad|\u06ad|\u06ad|\u06ad|\u06c7|\u06c7|\u06c6|\u06c6|\u06c8|\u06c8"⟩,
    ⟨0xFBDD, "\u06c7\u0674|\u06cb|\u06cb|\u06c5|\u06c5|\u06c9|\u06c9|\u06d0|\u06d0|\u06d0"⟩,
    ⟨0xFBE7, "\u06d0|\u0649|\u0649|\u0626\u0627|\u0626\u0627|\u0626\u06d5|\u0626\u06d5"⟩,
    ⟨0xFBEE, "\u0626\u0648|\u0626\u0648|\u0626\u06c7|\u0626\u06c7|\u0626\u06c6|\u0626\u06c6"⟩,
    ⟨0xFBF4, "\u0626\u06c8|\u0626\u06c8|\u0626\u06d0|\u0626\u06d0|\u0626\u06d0|\u0626\u0649"⟩,
    ⟨0xFBFA, "\u0626\u0649|\u0626\u0649|\u06cc|\u06cc|\u06cc|\u06cc|\u0626\u062c|\u0626\u062d"⟩,
    ⟨0xFC02, "\u0626\u0645|\u0626\u0649|\u0626\u064a|\u0628\u062c|\u0628\u062d|\u0628\u062e"⟩,
    ⟨0xFC08, "\u0628\u0645|\u0628\u0649|\u0628\u064a|\u062a\u062c|\u062a\u062d|\u062a\u062e"⟩,
    ⟨0xFC0E, "\u062a\u0645|\u062a\u0649|\u062a\u064a|\u062b\u062c|\u062b\u0645|\u062b\u0649"⟩,
    ⟨0xFC14, "\u062b\u064a|\u062c\u062d|\u062c\u0645|\u062d\u062c|\u062d\u0645|\u062e\u062c"⟩,
    ⟨0xFC1A, "\u062e\u062d|\u062e\u0645|\u0633\u062c|\u0633\u062d|\u0633\u062e|\u0633\u0645"⟩,
    ⟨0xFC20, "\u0635\u062d|\u0635\u0645|\u0636\u062c|\u0636\u062d|\u0636\u062e|\u0636\u0645"⟩,
    ⟨0xFC26, "\u0637\u062d|\u0637\u0645|\u0638\u0645|\u0639\u062c|\u0639\u0645|\u063a\u062c"⟩,
    ⟨0xFC2C, "\u063a\u0645|\u0641\u062c|\u0641\u062d|\u0641\u062e|\u0641\u0645|\u0641\u0649"⟩,
    ⟨0xFC32, "\u0641\u064a|\u0642\u062d|\u0642\u0645|\u0642\u0649|\u0642\u064a|\u0643\u0627"⟩,
    ⟨0xFC38, "\u0643\u062c|\u0643\u062d|\u0643\u062e|\u0643\u0644|\u0643\u0645|\u0643\u0649"⟩,
    ⟨0xFC3E, "\u0643\u064a|\u0644\u062c|\u0644\u062d|\u0644\u062e|\u0644\u0645|\u0644\u0649"⟩,
    ⟨0xFC44, "\u0644\u064a|\u0645\u062c|\u0645\u062d|\u0645\u062e|\u0645\u0645|\u0645\u0649"⟩,
    ⟨0xFC4A, "\u0645\u064a|\u0646\u062c|\u0646\u062d|\u0646\u062e|\u0646\u0645|\u0646\u0649"⟩,
    ⟨0xFC50, "\u0646\u064a|\u0647\u062c|\u0647\u0645|\u0647\u0649|\u0647\u064a|\u064a\u062c"⟩,
    ⟨0xFC56, "\u064a\u062d|\u064a\u062e|\u064a\u0645|\u064a\u0649|\u064a\u064a|\u0630\u0670"⟩,
    ⟨0xFC5C, "\u0631\u0670|\u0649\u0670"⟩,
    ⟨0xFC64, "\u0626\u0631|\u0626\u0632|\u0626\u0645|\u0626\u0646|\u0626\u0649|\u0626\u064a"⟩,
    ⟨0xFC6A, "\u0628\u0631|\u0628\u0632|\u0628\u0645|\u0628\u0646|\u0628\u0649|\u0628\u064a"⟩,
    ⟨0xFC70, "\u062a\u0631|\u062a\u0632|\u062a\u0645|\u062a\u0646|\u062a\u0649|\u062a\u064a"⟩,
    ⟨0xFC76, "\u062b\u0631|\u062b\u0632|\u062b\u0645|\u062b\u0646|\u062b\u0649|\u062b\u064a"⟩,
    ⟨0xFC7C, "\u0641\u0649|\u0641\u064a|\u0642\u0649|\u0642\u064a|\u0643\u0627|\u0643\u0644"⟩,
    ⟨0xFC82, "\u0643\u0645|\u0643\u0649|\u0643\u064a|\u0644\u0645|\u0644\u0649|\u0644\u064a"⟩,
    ⟨0xFC88, "\u0645\u0627|\u0645\u0645|\u0646\u0631|\u0646\u0632|\u0646\u0645|\u0646\u0646"⟩,
    ⟨0xFC8E, "\u0646\u0649|\u0646\u064a|\u0649\u0670|\u064a\u0631|\u064a\u0632|\u064a\u0645"⟩,
    ⟨0xFC94, "\u064a\u0646|\u064a\u0649|\u064a\u064a|\u0626\u062c|\u0626\u062d|\u0626\u062e"⟩,
    ⟨0xFC9A, "\u0626\u0645|\u0626\u0647|\u0628\u062c|\u0628\u062d|\u0628\u062e|\u0628\u0645"⟩,
    ⟨0xFCA0, "\u0628\u0647|\u062a\u062c|\u062a\u062d|\u062a\u062e|\u062a\u0645|\u062a\u0647"⟩,
    ⟨0xFCA6, "\u062b\u0645|\u062c\u062d|\u062c\u0645|\u062d\u062c|\u062d\u0645|\u062e\u062c"⟩,
    ⟨0xFCAC, "\u062e\u0645|\u0633\u062c|\u0633\u062d|\u0633\u062e|\u0633\u0645|\u0635\u062d"⟩,
    ⟨0xFCB2, "\u0635\u062e|\u0635\u0645|\u0636\u062c|\u0636\u062d|\u0636\u062e|\u0636\u0645"⟩,
    ⟨0xFCB8, "\u0637\u062d|\u0638\u0645|\u0639\u062c|\u0639\u0645|\u063a\u062c|\u063a\u0645"⟩,
    ⟨0xFCBE, "\u0641\u062c|\u0641\u062d|\u0641\u062e|\u0641\u0645|\u0642\u062d|\u0642\u0645"⟩,
    ⟨0xFCC4, "\u0643\u062c|\u0643\u062d|\u0643\u062e|\u0643\u0644|\u0643\u0645|\u0644\u062c"⟩,
    ⟨0xFCCA, "\u0644\u062d|\u0644\u062e|\u0644\u0645|\u0644\u0647|\u0645\u062c|\u0645\u062d"⟩,
    ⟨0xFCD0, "\u0645\u062e|\u0645\u0645|\u0646\u062c|\u0646\u062d|\u0646\u062e|\u0646\u0645"⟩,
    ⟨0xFCD6, "\u0646\u0647|\u0647\u062c|\u0647\u0645|\u0647\u0670|\u064a\u062c|\u064a\u062d"⟩,
    ⟨0xFCDC, "\u064a\u062e|\u064a\u0645|\u064a\u0647|\u0626\u0645|\u0626\u0647|\u0628\u0645"⟩,
    ⟨0xFCE2, "\u0628\u0647|\u062a\u0645|\u062a\u0647|\u062b\u0645|\u062b\u0647|\u0633\u0645"⟩,
    ⟨0xFCE8, "\u0633\u0647|\u0634\u0645|\u0634\u0647|\u0643\u0644|\u0643\u0645|\u0644\u0645"⟩,
    ⟨0xFCEE, "\u0646\u0645|\u0646\u0647|\u064a\u0645|\u064a\u0647|\u0640\u064e\u0651"⟩,
    ⟨0xFCF3, "\u0640\u064f\u0651|\u0640\u0650\u0651|\u0637\u0649|\u0637\u064a|\u0639\u0649"⟩,
    ⟨0xFCF8, "\u0639\u064a|\u063a\u0649|\u063a\u064a|\u0633\u0649|\u0633\u064a|\u0634\u0649"⟩,
    ⟨0xFCFE, "\u0634\u064a|\u062d\u0649|\u062d\u064a|\u062c\u0649|\u062c\u064a|\u062e\u0649"⟩,
    ⟨0xFD04, "\u062e\u064a|\u0635\u0649|\u0635\u064a|\u0636\u0649|\u0636\u064a|\u0634\u062c"⟩,
    ⟨0xFD0A, "\u0634\u062d|\u0634\u062e|\u0634\u0645|\u0634\u0631|\u0633\u0631|\u0635\u0631"⟩,
    ⟨0xFD10, "\u0636\u0631|\u0637\u0649|\u0637\u064a|\u0639\u0649|\u0639\u064a|\u063a\u0649"⟩,
    ⟨0xFD16, "\u063a\u064a|\u0633\u0649|\u0633\u064a|\u0634\u0649|\u0634\u064a|\u062d\u0649"⟩,
    ⟨0xFD1C, "\u062d\u064a|\u062c\u0649|\u062c\u064a|\u062e\u0649|\u062e\u064a|\u0635\u0649"⟩,
    ⟨0xFD22, "\u0635\u064a|\u0636\u0649|\u0636\u064a|\u0634\u062c|\u0634\u062d|\u0634\u062e"⟩,
    ⟨0xFD28, "\u0634\u0645|\u0634\u0631|\u0633\u0631|\u0635\u0631|\u0636\u0631|\u0634\u062c"⟩,
    ⟨0xFD2E, "\u0634\u062d|\u0634\u062e|\u0634\u0645|\u0633\u0647|\u0634\u0647|\u0637\u0645"⟩,
    ⟨0xFD34, "\u0633\u062c|\u0633\u062d|\u0633\u062e|\u0634\u062c|\u0634\u062d|\u0634\u062e"⟩,
    ⟨0xFD3A, "\u0637\u0645|\u0638\u0645|\u0627\u064b|\u0627\u064b"⟩,
    ⟨0xFD50, "\u062a\u062c\u0645|\u062a\u062d\u062c|\u062a\u062d\u062c|\u062a\u062d\u0645"⟩,
    ⟨0xFD54, "\u062a\u062e\u0645|\u062a\u0645\u062c|\u062a\u0645\u062d|\u062a\u0645\u062e"⟩,
    ⟨0xFD58, "\u062c\u0645\u062d|\u062c\u0645\u062d|\u062d\u0645\u064a|\u062d\u0645\u0649"⟩,
    ⟨0xFD5C, "\u0633\u062d\u062c|\u0633\u062c\u062d|\u0633\u062c\u0649|\u0633\u0645\u062d"⟩,
    ⟨0xFD60, "\u0633\u0645\u062d|\u0633\u0645\u062c|\u0633\u0645\u0645|\u0633\u0645\u0645"⟩,
    ⟨0xFD64, "\u0635\u062d\u062d|\u0635\u062d\u062d|\u0635\u0645\u0645|\u0634\u062d\u0645"⟩,
    ⟨0xFD68, "\u0634\u062d\u0645|\u0634\u062c\u064a|\u0634\u0645\u062e|\u0634\u0645\u062e"⟩,
    ⟨0xFD6C, "\u0634\u0645\u0645|\u0634\u0645\u0645|\u0636\u062d\u0649|\u0636\u062e\u0645"⟩,
    ⟨0xFD70, "\u0636\u062e\u0645|\u0637\u0645\u062d|\u0637\u0645\u062d|\u0637\u0645\u0645"⟩,
    ⟨0xFD74, "\u0637\u0645\u064a|\u0639\u062c\u0645|\u0639\u0645\u0645|\u0639\u0645\u0645"⟩,
    ⟨0xFD78, "\u0639\u0645\u0649|\u063a\u0645\u0645|\u063a\u0645\u064a|\u063a\u0645\u0649"⟩,
    ⟨0xFD7C, "\u0641\u062e\u0645|\u0641\u062e\u0645|\u0642\u0645\u062d|\u0642\u0645\u0645"⟩,
    ⟨0xFD80, "\u0644\u062d\u0645|\u0644\u062d\u064a|\u0644\u062d\u0649|\u0644\u062c\u062c"⟩,
    ⟨0xFD84, "\u0644\u062c\u062c|\u0644\u062e\u0645|\u0644\u062e\u0645|\u0644\u0645\u062d"⟩,
    ⟨0xFD88, "\u0644\u0645\u062d|\u0645\u062d\u062c|\u0645\u062d\u0645|\u0645\u062d\u064a"⟩,
    ⟨0xFD8C, "\u0645\u062c\u062d|\u0645\u062c\u0645|\u0645\u062e\u062c|\u0645\u062e\u0645"⟩,
    ⟨0xFD92, "\u0645\u062c\u062e|\u0647\u0645\u062c|\u0647\u0645\u0645|\u0646\u062d\u0645"⟩,
    ⟨0xFD96, "\u0646\u062d\u0649|\u0646\u062c\u0645|\u0646\u062c\u0645|\u0646\u062c\u0649"⟩,
    ⟨0xFD9A, "\u0646\u0645\u064a|\u0646\u0645\u0649|\u064a\u0645\u0645|\u064a\u0645\u0645"⟩,
    ⟨0xFD9E, "\u0628\u062e\u064a|\u062a\u062c\u064a|\u062a\u062c\u0649|\u062a\u062e\u064a"⟩,
    ⟨0xFDA2, "\u062a\u062e\u0649|\u062a\u0645\u064a|\u062a\u0645\u0649|\u062c\u0645\u064a"⟩,
    ⟨0xFDA6, "\u062c\u062d\u0649|\u062c\u0645\u0649|\u0633\u062e\u0649|\u0635\u062d\u064a"⟩,
    ⟨0xFDAA, "\u0634\u062d\u064a|\u0636\u062d\u064a|\u0644\u062c\u064a|\u0644\u0645\u064a"⟩,
    ⟨0xFDAE, "\u064a\u062d\u064a|\u064a\u062c\u064a|\u064a\u0645\u064a|\u0645\u0645\u064a"⟩,
    ⟨0xFDB2, "\u0642\u0645\u064a|\u0646\u062d\u064a|\u0642\u0645\u062d|\u0644\u062d\u0645"⟩,
    ⟨0xFDB6, "\u0639\u0645\u064a|\u0643\u0645\u064a|\u0646\u062c\u062d|\u0645\u062e\u064a"⟩,
    ⟨0xFDBA, "\u0644\u062c\u0645|\u0643\u0645\u0645|\u0644\u062c\u0645|\u0646\u062c\u062d"⟩,
    ⟨0xFDBE, "\u062c\u062d\u064a|\u062d\u062c\u064a|\u0645\u062c\u064a|\u0641\u0645\u064a"⟩,
    ⟨0xFDC2, "\u0628\u062d\u064a|\u0643\u0645\u0645|\u0639\u062c\u0645|\u0635\u0645\u0645"⟩,
    ⟨0xFDC6, "\u0633\u062e\u064a|\u0646\u062c\u064a"⟩,
    ⟨0xFDF0, "\u0635\u0644\u06d2|\u0642\u0644\u06d2|\u0627\u0644\u0644\u0647"⟩,
    ⟨0xFDF3, "\u0627\u0643\u0628\u0631|\u0645\u062d\u0645\u062f|\u0635\u0644\u0639\u0645"⟩,
    ⟨0xFDF6, "\u0631\u0633\u0648\u0644|\u0639\u0644\u064a\u0647|\u0648\u0633\u0644\u0645"⟩,
    ⟨0xFDF9, "\u0635\u0644\u0649|||\u0631\u06cc\u0627\u0644"⟩,
    ⟨0xFE10, ",|、|||;|!||〖|〗"⟩,
    ⟨0xFE31, "—|–|_|_|(|)|\x7b|\x7d|〔|〕|【|】|《|》|〈|〉"⟩,
    ⟨0xFE4D, "_|_|_|,|、|||;|||!|—|(|)|\x7b|\x7d|〔|〕||&|*|+|-|||=|||$"⟩,
    ⟨0xFE71, "\u0640\u064b"⟩,
    ⟨0xFE77, "\u0640\u064e||\u0640\u064f||\u0640\u0650||\u0640\u0651||\u0640\u0652|\u0621"⟩,
    ⟨0xFE81, "\u0622|\u0622|\u0623|\u0623|\u0624|\u0624|\u0625|\u0625|\u0626|\u0626|\u0626"⟩,
    ⟨0xFE8C, "\u0626|\u0627|\u0627|\u0628|\u0628|\u0628|\u0628|\u0629|\u0629|\u062a|\u062a"⟩,
    ⟨0xFE97, "\u062a|\u062a|\u062b|\u062b|\u062b|\u062b|\u062c|\u062c|\u062c|\u062c|\u062d"⟩,
    ⟨0xFEA2, "\u062d|\u062d|\u062d|\u062e|\u062e|\u062e|\u062e|\u062f|\u062f|\u0630|\u0630"⟩,
    ⟨0xFEAD, "\u0631|\u0631|\u0632|\u0632|\u0633|\u0633|\u0633|\u0633|\u0634|\u0634|\u0634"⟩,
    ⟨0xFEB8, "\u0634|\u0635|\u0635|\u0635|\u0635|\u0636|\u0636|\u0636|\u0636|\u0637|\u0637"⟩,
    ⟨0xFEC3, "\u0637|\u0637|\u0638|\u0638|\u0638|\u0638|\u0639|\u0639|\u0639|\u0639|\u063a"⟩,
    ⟨0xFECE, "\u063a|\u063a|\u063a|\u0641|\u0641|\u0641|\u0641|\u0642|\u0642|\u0642|\u0642"⟩,
    ⟨0xFED9, "\u0643|\u0643|\u0643|\u0643|\u0644|\u0644|\u0644|\u0644|\u0645|\u0645|\u0645"⟩,
    ⟨0xFEE4, "\u0645|\u0646|\u0646|\u0646|\u0646|\u0647|\u0647|\u0647|\u0647|\u0648|\u0648"⟩,
    ⟨0xFEEF, "\u0649|\u0649|\u064a|\u064a|\u064a|\u064a|\u0644\u0622|\u0644\u0622|\u0644\u0623"⟩,
    ⟨0xFEF8, "\u0644\u0623|\u0644\u0625|\u0644\u0625|\u0644\u0627|\u0644\u0627"⟩,
    ⟨0xFF01, "!"⟩,
    ⟨0xFF5D, "\x7d|~|⦅|⦆|.|「|」|、|・|ヲ|ァ|ィ|ゥ|ェ|ォ|ャ|ュ|ョ|ッ|ー|ア|イ|ウ|エ|オ|カ|キ|ク|ケ|コ|サ|シ|ス|セ|ソ|タ|チ|ツ|テ"⟩,
    ⟨0xFF84, "ト"⟩,
    ⟨0xFF8B, "ヒ|フ|ヘ|ホ"⟩,
    ⟨0xFF94, "ヤ|ユ"⟩,
    ⟨0xFF9C, "ワ|ン|\u3099|\u309a||ᄀ|ᄁ|ᆪ|ᄂ|ᆬ|ᆭ|ᄃ|ᄄ|ᄅ"⟩,
    ⟨0xFFB0, "ᄚ|ᄆ|ᄇ|ᄈ|ᄡ"⟩,
    ⟨0xFFDA, "ᅳ|ᅴ|ᅵ"⟩,
    ⟨0xFFE0, "¢|£|¬||¦|¥|₩||│"⟩,
    ⟨0xFFED, "■|○"⟩]

/-- Letters and symbols beyond the first plane. -/
def supplementaryRows : List Text.CodeRow :=
  [⟨0x1058D, "𐖴||𐖶||𐖸"⟩,
    ⟨0x10595, "𐖼"⟩,
    ⟨0x10781, "ː|ˑ|æ|ʙ|ɓ||ʣ|ꭦ|ʥ|ʤ|ɖ|ɗ|ᶑ|ɘ|ɞ|ʩ|ɤ|ɢ|ɠ|ʛ|ħ|ʜ|ɧ|ʄ|ʪ|ʫ|ɬ|𝼄|ꞎ|ɮ|𝼅|ʎ|𝼆|ø|ɶ|ɷ|q|ɺ|𝼈|ɽ|ɾ"⟩,
    ⟨0x107AA, "ʀ|ʨ|ʦ|ꭧ|ʧ|ʈ|ⱱ||ʏ|ʡ|ʢ|ʘ|ǀ|ǁ|ǂ|𝼊|𝼞"⟩,
    ⟨0x1D15E, "𝅗𝅥|𝅘𝅥|𝅘𝅥𝅮|𝅘𝅥𝅯|𝅘𝅥𝅰|𝅘𝅥𝅱|𝅘𝅥𝅲"⟩,
    ⟨0x1D1BB, "𝆹𝅥|𝆺𝅥|𝆹𝅥𝅮|𝆺𝅥𝅮|𝆹𝅥𝅯|𝆺𝅥𝅯"⟩,
    ⟨0x1D44F, "b||d||f"⟩,
    ⟨0x1D49C, "a||c|d|||g|||j|k"⟩,
    ⟨0x1D4BE, "i||k||m"⟩,
    ⟨0x1D504, "a|b"⟩,
    ⟨0x1D538, "a|b"⟩,
    ⟨0x1D546, "o"⟩,
    ⟨0x1D6A4, "ı|ȷ"⟩,
    ⟨0x1D6B9, "θ"⟩,
    ⟨0x1D6C1, "∇"⟩,
    ⟨0x1D6D3, "σ"⟩,
    ⟨0x1D6DB, "∂|ε|θ|κ|φ|ρ|π"⟩,
    ⟨0x1D6F3, "θ"⟩,
    ⟨0x1D6FB, "∇"⟩,
    ⟨0x1D70D, "σ"⟩,
    ⟨0x1D715, "∂|ε|θ|κ|φ|ρ|π"⟩,
    ⟨0x1D72D, "θ"⟩,
    ⟨0x1D735, "∇"⟩,
    ⟨0x1D747, "σ"⟩,
    ⟨0x1D74F, "∂|ε|θ|κ|φ|ρ|π"⟩,
    ⟨0x1D767, "θ"⟩,
    ⟨0x1D76F, "∇"⟩,
    ⟨0x1D781, "σ"⟩,
    ⟨0x1D789, "∂|ε|θ|κ|φ|ρ|π"⟩,
    ⟨0x1D7A1, "θ"⟩,
    ⟨0x1D7A9, "∇"⟩,
    ⟨0x1D7BB, "σ"⟩,
    ⟨0x1D7C3, "∂|ε|θ|κ|φ|ρ|π|ϝ|ϝ"⟩,
    ⟨0x1E039, "к|л|м"⟩,
    ⟨0x1E047, "ы|э|ю|ꚉ|ә|і|ј|ө|ү|ӏ"⟩,
    ⟨0x1E05A, "к|л|о|п|с"⟩,
    ⟨0x1E065, "ъ|ы|ґ|і|ѕ|џ|ҫ|ꙑ|ұ"⟩,
    ⟨0x1EE00, "\u0627|\u0628|\u062c|\u062f||\u0648|\u0632|\u062d|\u0637|\u064a"⟩,
    ⟨0x1EE0E, "\u0633|\u0639|\u0641|\u0635|\u0642|\u0631|\u0634|\u062a|\u062b|\u062e|\u0630"⟩,
    ⟨0x1EE19, "\u0636|\u0638|\u063a|\u066e|\u06ba|\u06a1|\u066f||\u0628|\u062c||\u0647|||\u062d"⟩,
    ⟨0x1EE29, "\u064a"⟩,
    ⟨0x1EE2E, "\u0633|\u0639|\u0641|\u0635|\u0642||\u0634|\u062a|\u062b|\u062e||\u0636||\u063a"⟩,
    ⟨0x1EE42, "\u062c"⟩,
    ⟨0x1EE47, "\u062d||\u064a||\u0644||\u0646|\u0633|\u0639||\u0635|\u0642||\u0634|||\u062e"⟩,
    ⟨0x1EE59, "\u0636||\u063a||\u06ba||\u066f||\u0628|\u062c||\u0647|||\u062d|\u0637|\u064a"⟩,
    ⟨0x1EE6A, "\u0643||\u0645|\u0646|\u0633|\u0639|\u0641|\u0635|\u0642||\u0634|\u062a|\u062b"⟩,
    ⟨0x1EE77, "\u062e||\u0636|\u0638|\u063a|\u066e||\u06a1||\u0627|\u0628|\u062c|\u062f|\u0647"⟩,
    ⟨0x1EE85, "\u0648|\u0632|\u062d|\u0637|\u064a||\u0644|\u0645|\u0646|\u0633|\u0639|\u0641"⟩,
    ⟨0x1EE91, "\u0635|\u0642|\u0631|\u0634|\u062a|\u062b|\u062e|\u0630|\u0636|\u0638|\u063a"⟩,
    ⟨0x1EEA1, "\u0628|\u062c|\u062f||\u0648|\u0632|\u062d|\u0637|\u064a||\u0644|\u0645|\u0646"⟩,
    ⟨0x1EEAE, "\u0633|\u0639|\u0641|\u0635|\u0642|\u0631|\u0634|\u062a|\u062b|\u062e|\u0630"⟩,
    ⟨0x1EEB9, "\u0636|\u0638|\u063a"⟩,
    ⟨0x1F101, "0,|1,|2,|3,|4,|5,|6,|7,|8,|9,"⟩,
    ⟨0x1F110, "(a)|(b)|(c)|(d)|(e)|(f)|(g)|(h)|(i)|(j)|(k)|(l)|(m)|(n)|(o)|(p)|(q)|(r)|(s)|(t)"⟩,
    ⟨0x1F124, "(u)|(v)|(w)|(x)|(y)|(z)|〔s〕|c|r|cd|wz"⟩,
    ⟨0x1F14A, "hv|mv|sd|ss|ppv|wc"⟩,
    ⟨0x1F16A, "mc|md|mr"⟩,
    ⟨0x1F190, "dj"⟩,
    ⟨0x1F200, "ほか|ココ|サ"⟩,
    ⟨0x1F210, "手|字|双|デ|二|多|解|天|交|映|無|料|前|後|再|新|初|終|生|販|声|吹|演|投|捕|一|三|遊|左|中|右|指|走|打|禁|空|合|満|有|月"⟩,
    ⟨0x1F238, "申|割|営|配"⟩,
    ⟨0x1F240, "〔本〕|〔三〕|〔二〕|〔安〕|〔点〕|〔打〕|〔盗〕|〔勝〕|〔敗〕"⟩,
    ⟨0x1F250, "得|可"⟩]

/-- All of them. -/
def spellings : Text.CodeTable :=
  Text.CodeTable.ofRows
    (letterRows ++ symbolRows ++ squaredRows ++ variantRows ++ supplementaryRows)

end PlumeForm.Domain
