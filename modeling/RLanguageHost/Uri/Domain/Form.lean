import RLanguageHost.Text.Composed

/-!
# Forms of characters in domain names

Domain names do not tell large letters from small ones, nor characters from others that only look
different: those of other widths, ligatures, letters in circles and the like. Each character has one
form, which may be several characters, or none for a character that leaves no trace. Some characters
cannot be in a domain name at all.
-/

namespace RLanguageHost.Uri.Domain

/-- The characters with another form. An entry starts at a code point and lists the forms of it and
of every code point that many steps on, with blanks between them. -/
def formTable : List (Nat × Nat × String) := [
  (0x41, 1, "a b c d e f g h i j k l m n o p q r s t u v w x y z"),
  (0xAA, 1, "a"),
  (0xB2, 1, "2 3"),
  (0xB5, 1, "μ"),
  (0xB9, 1, "1 o"),
  (0xBC, 1, "1⁄4 1⁄2 3⁄4"),
  (0xC0, 1, "à á â ã ä å æ ç è é ê ë ì í î ï ð ñ ò ó ô õ ö"),
  (0xD8, 1, "ø ù ú û ü ý þ"),
  (0x100, 2, "ā ă ą ć ĉ ċ č ď đ ē ĕ ė ę ě ĝ ğ ġ ģ ĥ ħ ĩ ī ĭ į i̇"),
  (0x132, 1, "ij ij ĵ"),
  (0x136, 1, "ķ"),
  (0x139, 2, "ĺ ļ ľ"),
  (0x13F, 1, "l· l· ł"),
  (0x143, 2, "ń ņ ň"),
  (0x149, 1, "ʼn ŋ"),
  (0x14C, 2, "ō ŏ ő œ ŕ ŗ ř ś ŝ ş š ţ ť ŧ ũ ū ŭ ů ű ų ŵ ŷ"),
  (0x178, 1, "ÿ ź"),
  (0x17B, 2, "ż ž s"),
  (0x181, 1, "ɓ ƃ"),
  (0x184, 1, "ƅ"),
  (0x186, 1, "ɔ ƈ"),
  (0x189, 1, "ɖ ɗ ƌ"),
  (0x18E, 1, "ǝ ə ɛ ƒ"),
  (0x193, 1, "ɠ ɣ"),
  (0x196, 1, "ɩ ɨ ƙ"),
  (0x19C, 1, "ɯ ɲ"),
  (0x19F, 1, "ɵ ơ"),
  (0x1A2, 2, "ƣ ƥ"),
  (0x1A6, 1, "ʀ ƨ"),
  (0x1A9, 1, "ʃ"),
  (0x1AC, 1, "ƭ"),
  (0x1AE, 1, "ʈ ư"),
  (0x1B1, 1, "ʊ ʋ ƴ"),
  (0x1B5, 1, "ƶ"),
  (0x1B7, 1, "ʒ ƹ"),
  (0x1BC, 1, "ƽ"),
  (0x1C4, 1, "dž dž dž lj lj lj nj nj nj ǎ"),
  (0x1CF, 2, "ǐ ǒ ǔ ǖ ǘ ǚ ǜ"),
  (0x1DE, 2, "ǟ ǡ ǣ ǥ ǧ ǩ ǫ ǭ ǯ"),
  (0x1F1, 1, "dz dz dz ǵ"),
  (0x1F6, 1, "ƕ ƿ ǹ"),
  (0x1FA, 2, "ǻ ǽ ǿ ȁ ȃ ȅ ȇ ȉ ȋ ȍ ȏ ȑ ȓ ȕ ȗ ș ț ȝ ȟ ƞ ȣ ȥ ȧ ȩ ȫ ȭ ȯ ȱ ȳ"),
  (0x23A, 1, "ⱥ ȼ"),
  (0x23D, 1, "ƚ ⱦ"),
  (0x241, 1, "ɂ"),
  (0x243, 1, "ƀ ʉ ʌ ɇ"),
  (0x248, 2, "ɉ ɋ ɍ ɏ"),
  (0x2B0, 1, "h ɦ j r ɹ ɻ ʁ w y"),
  (0x2E0, 1, "ɣ l s x ʕ"),
  (0x340, 1, "̀ ́"),
  (0x343, 1, "̓ ̈́ ι"),
  (0x370, 2, "ͱ ͳ ʹ ͷ"),
  (0x37E, 1, "; ϳ"),
  (0x386, 1, "ά · έ ή ί"),
  (0x38C, 1, "ό"),
  (0x38E, 1, "ύ ώ"),
  (0x391, 1, "α β γ δ ε ζ η θ ι κ λ μ ν ξ ο π ρ"),
  (0x3A3, 1, "σ τ υ φ χ ψ ω ϊ ϋ"),
  (0x3CF, 1, "ϗ β θ υ ύ ϋ φ π"),
  (0x3D8, 2, "ϙ ϛ ϝ ϟ ϡ ϣ ϥ ϧ ϩ ϫ ϭ ϯ"),
  (0x3F0, 1, "κ ρ σ"),
  (0x3F4, 1, "θ ε"),
  (0x3F7, 1, "ϸ"),
  (0x3F9, 1, "σ ϻ"),
  (0x3FD, 1, "
    ͻ ͼ ͽ ѐ ё ђ ѓ є ѕ і ї ј љ њ ћ ќ ѝ ў џ а б в г д е ж з и й к л м н о п р с т у ф х ц ч ш
    щ ъ ы ь э ю я"),
  (0x460, 2, "ѡ ѣ ѥ ѧ ѩ ѫ ѭ ѯ ѱ ѳ ѵ ѷ ѹ ѻ ѽ ѿ ҁ"),
  (0x48A, 2, "ҋ ҍ ҏ ґ ғ ҕ җ ҙ қ ҝ ҟ ҡ ң ҥ ҧ ҩ ҫ ҭ ү ұ ҳ ҵ ҷ ҹ һ ҽ ҿ"),
  (0x4C0, 1, "ӏ ӂ"),
  (0x4C3, 2, "ӄ ӆ ӈ ӊ ӌ ӎ"),
  (0x4D0, 2, "
    ӑ ӓ ӕ ӗ ә ӛ ӝ ӟ ӡ ӣ ӥ ӧ ө ӫ ӭ ӯ ӱ ӳ ӵ ӷ ӹ ӻ ӽ ӿ ԁ ԃ ԅ ԇ ԉ ԋ ԍ ԏ ԑ ԓ ԕ ԗ ԙ ԛ ԝ ԟ ԡ ԣ ԥ ԧ
    ԩ ԫ ԭ ԯ"),
  (0x531, 1, "ա բ գ դ ե զ է ը թ ժ ի լ խ ծ կ հ ձ ղ ճ մ յ ն շ ո չ պ ջ ռ ս վ տ ր ց ւ փ ք օ ֆ"),
  (0x587, 1, "եւ"),
  (0x675, 1, "اٴ وٴ ۇٴ يٴ"),
  (0x958, 1, "क़ ख़ ग़ ज़ ड़ ढ़ फ़ य़"),
  (0x9DC, 1, "ড় ঢ়"),
  (0x9DF, 1, "য়"),
  (0xA33, 1, "ਲ਼"),
  (0xA36, 1, "ਸ਼"),
  (0xA59, 1, "ਖ਼ ਗ਼ ਜ਼"),
  (0xA5E, 1, "ਫ਼"),
  (0xB5C, 1, "ଡ଼ ଢ଼"),
  (0xE33, 1, "ํา"),
  (0xEB3, 1, "ໍາ"),
  (0xEDC, 1, "ຫນ ຫມ"),
  (0xF0C, 1, "་"),
  (0xF43, 1, "གྷ"),
  (0xF4D, 1, "ཌྷ"),
  (0xF52, 1, "དྷ"),
  (0xF57, 1, "བྷ"),
  (0xF5C, 1, "ཛྷ"),
  (0xF69, 1, "ཀྵ"),
  (0xF73, 1, "ཱི"),
  (0xF75, 1, "ཱུ ྲྀ ྲཱྀ ླྀ ླཱྀ"),
  (0xF81, 1, "ཱྀ"),
  (0xF93, 1, "ྒྷ"),
  (0xF9D, 1, "ྜྷ"),
  (0xFA2, 1, "ྡྷ"),
  (0xFA7, 1, "ྦྷ"),
  (0xFAC, 1, "ྫྷ"),
  (0xFB9, 1, "ྐྵ"),
  (0x10A0, 1, "ⴀ ⴁ ⴂ ⴃ ⴄ ⴅ ⴆ ⴇ ⴈ ⴉ ⴊ ⴋ ⴌ ⴍ ⴎ ⴏ ⴐ ⴑ ⴒ ⴓ ⴔ ⴕ ⴖ ⴗ ⴘ ⴙ ⴚ ⴛ ⴜ ⴝ ⴞ ⴟ ⴠ ⴡ ⴢ ⴣ ⴤ ⴥ"),
  (0x10C7, 1, "ⴧ"),
  (0x10CD, 1, "ⴭ"),
  (0x10FC, 1, "ნ"),
  (0x13F8, 1, "Ᏸ Ᏹ Ᏺ Ᏻ Ᏼ Ᏽ"),
  (0x1C80, 1, "в д о с т т ъ ѣ ꙋ ᲊ"),
  (0x1C90, 1, "
    ა ბ გ დ ე ვ ზ თ ი კ ლ მ ნ ო პ ჟ რ ს ტ უ ფ ქ ღ ყ შ ჩ ც ძ წ ჭ ხ ჯ ჰ ჱ ჲ ჳ ჴ ჵ ჶ ჷ ჸ ჹ ჺ"),
  (0x1CBD, 1, "ჽ ჾ ჿ"),
  (0x1D2C, 1, "a æ b"),
  (0x1D30, 1, "d e ǝ g h i j k l m n"),
  (0x1D3C, 1, "o ȣ p r t u w a ɐ ɑ ᴂ b d e ə ɛ ɜ g"),
  (0x1D4F, 1, "k m ŋ o ɔ ᴖ ᴗ p t u ᴝ ɯ v ᴥ β γ δ φ χ i r u v β γ ρ φ χ"),
  (0x1D78, 1, "н"),
  (0x1D9B, 1, "ɒ c ɕ ð ɜ f ɟ ɡ ɥ ɨ ɩ ɪ ᵻ ʝ ɭ ᶅ ʟ ɱ ɰ ɲ ɳ ɴ ɵ ɸ ʂ ʃ ƫ ʉ ʊ ᴜ ʋ ʌ z ʐ ʑ ʒ θ"),
  (0x1E00, 2, "
    ḁ ḃ ḅ ḇ ḉ ḋ ḍ ḏ ḑ ḓ ḕ ḗ ḙ ḛ ḝ ḟ ḡ ḣ ḥ ḧ ḩ ḫ ḭ ḯ ḱ ḳ ḵ ḷ ḹ ḻ ḽ ḿ ṁ ṃ ṅ ṇ ṉ ṋ ṍ ṏ ṑ ṓ ṕ ṗ
    ṙ ṛ ṝ ṟ ṡ ṣ ṥ ṧ ṩ ṫ ṭ ṯ ṱ ṳ ṵ ṷ ṹ ṻ ṽ ṿ ẁ ẃ ẅ ẇ ẉ ẋ ẍ ẏ ẑ ẓ ẕ"),
  (0x1E9A, 1, "aʾ ṡ"),
  (0x1E9E, 2, "
    ß ạ ả ấ ầ ẩ ẫ ậ ắ ằ ẳ ẵ ặ ẹ ẻ ẽ ế ề ể ễ ệ ỉ ị ọ ỏ ố ồ ổ ỗ ộ ớ ờ ở ỡ ợ ụ ủ ứ ừ ử ữ ự ỳ ỵ
    ỷ ỹ ỻ ỽ ỿ"),
  (0x1F08, 1, "ἀ ἁ ἂ ἃ ἄ ἅ ἆ ἇ"),
  (0x1F18, 1, "ἐ ἑ ἒ ἓ ἔ ἕ"),
  (0x1F28, 1, "ἠ ἡ ἢ ἣ ἤ ἥ ἦ ἧ"),
  (0x1F38, 1, "ἰ ἱ ἲ ἳ ἴ ἵ ἶ ἷ"),
  (0x1F48, 1, "ὀ ὁ ὂ ὃ ὄ ὅ"),
  (0x1F59, 2, "ὑ ὓ ὕ ὗ"),
  (0x1F68, 1, "ὠ ὡ ὢ ὣ ὤ ὥ ὦ ὧ"),
  (0x1F71, 2, "ά έ ή ί ό ύ ώ"),
  (0x1F80, 1, "
    ἀι ἁι ἂι ἃι ἄι ἅι ἆι ἇι ἀι ἁι ἂι ἃι ἄι ἅι ἆι ἇι ἠι ἡι ἢι ἣι ἤι ἥι ἦι ἧι ἠι ἡι ἢι ἣι ἤι
    ἥι ἦι ἧι ὠι ὡι ὢι ὣι ὤι ὥι ὦι ὧι ὠι ὡι ὢι ὣι ὤι ὥι ὦι ὧι"),
  (0x1FB2, 1, "ὰι αι άι"),
  (0x1FB7, 1, "ᾶι ᾰ ᾱ ὰ ά αι"),
  (0x1FBE, 1, "ι"),
  (0x1FC2, 1, "ὴι ηι ήι"),
  (0x1FC7, 1, "ῆι ὲ έ ὴ ή ηι"),
  (0x1FD3, 1, "ΐ"),
  (0x1FD8, 1, "ῐ ῑ ὶ ί"),
  (0x1FE3, 1, "ΰ"),
  (0x1FE8, 1, "ῠ ῡ ὺ ύ ῥ"),
  (0x1FEF, 1, "`"),
  (0x1FF2, 1, "ὼι ωι ώι"),
  (0x1FF7, 1, "ῶι ὸ ό ὼ ώ ωι"),
  (0x2011, 1, "‐"),
  (0x2033, 1, "′′ ′′′"),
  (0x2036, 1, "‵‵ ‵‵‵"),
  (0x203C, 1, "!!"),
  (0x2047, 1, "?? ?! !?"),
  (0x2057, 1, "′′′′"),
  (0x2070, 1, "0 i"),
  (0x2074, 1, "4 5 6 7 8 9 + − = ( ) n 0 1 2 3 4 5 6 7 8 9 + − = ( )"),
  (0x2090, 1, "a e o x ə h k l m n p s t"),
  (0x20A8, 1, "rs"),
  (0x2100, 1, "a/c a/s c °c"),
  (0x2105, 1, "c/o c/u ɛ"),
  (0x2109, 1, "°f g h h h h ħ i i l l"),
  (0x2115, 1, "n no"),
  (0x2119, 1, "p q r r r"),
  (0x2120, 1, "sm tel tm"),
  (0x2124, 2, "z ω z"),
  (0x212A, 1, "k å b c"),
  (0x212F, 1, "e e f ⅎ m o א ב ג ד i"),
  (0x213B, 1, "fax π γ γ π ∑"),
  (0x2145, 1, "d d e i j"),
  (0x2150, 1, "
    1⁄7 1⁄9 1⁄10 1⁄3 2⁄3 1⁄5 2⁄5 3⁄5 4⁄5 1⁄6 5⁄6 1⁄8 3⁄8 5⁄8 7⁄8 1⁄ i ii iii iv v vi vii
    viii ix x xi xii l c d m i ii iii iv v vi vii viii ix x xi xii l c d m"),
  (0x2183, 1, "ↄ"),
  (0x2189, 1, "0⁄3"),
  (0x222C, 1, "∫∫ ∫∫∫"),
  (0x222F, 1, "∮∮ ∮∮∮"),
  (0x2329, 1, "〈 〉"),
  (0x2460, 1, "
    1 2 3 4 5 6 7 8 9 10 11 12 13 14 15 16 17 18 19 20 (1) (2) (3) (4) (5) (6) (7) (8) (9)
    (10) (11) (12) (13) (14) (15) (16) (17) (18) (19) (20)"),
  (0x249C, 1, "
    (a) (b) (c) (d) (e) (f) (g) (h) (i) (j) (k) (l) (m) (n) (o) (p) (q) (r) (s) (t) (u) (v)
    (w) (x) (y) (z) a b c d e f g h i j k l m n o p q r s t u v w x y z a b c d e f g h i j
    k l m n o p q r s t u v w x y z 0"),
  (0x2A0C, 1, "∫∫∫∫"),
  (0x2A74, 1, "::= == ==="),
  (0x2ADC, 1, "⫝̸"),
  (0x2C00, 1, "
    ⰰ ⰱ ⰲ ⰳ ⰴ ⰵ ⰶ ⰷ ⰸ ⰹ ⰺ ⰻ ⰼ ⰽ ⰾ ⰿ ⱀ ⱁ ⱂ ⱃ ⱄ ⱅ ⱆ ⱇ ⱈ ⱉ ⱊ ⱋ ⱌ ⱍ ⱎ ⱏ ⱐ ⱑ ⱒ ⱓ ⱔ ⱕ ⱖ ⱗ ⱘ ⱙ ⱚ ⱛ
    ⱜ ⱝ ⱞ ⱟ"),
  (0x2C60, 1, "ⱡ"),
  (0x2C62, 1, "ɫ ᵽ ɽ"),
  (0x2C67, 2, "ⱨ ⱪ ⱬ"),
  (0x2C6D, 1, "ɑ ɱ ɐ ɒ"),
  (0x2C72, 1, "ⱳ"),
  (0x2C75, 1, "ⱶ"),
  (0x2C7C, 1, "j v ȿ ɀ ⲁ"),
  (0x2C82, 2, "
    ⲃ ⲅ ⲇ ⲉ ⲋ ⲍ ⲏ ⲑ ⲓ ⲕ ⲗ ⲙ ⲛ ⲝ ⲟ ⲡ ⲣ ⲥ ⲧ ⲩ ⲫ ⲭ ⲯ ⲱ ⲳ ⲵ ⲷ ⲹ ⲻ ⲽ ⲿ ⳁ ⳃ ⳅ ⳇ ⳉ ⳋ ⳍ ⳏ ⳑ ⳓ ⳕ ⳗ ⳙ
    ⳛ ⳝ ⳟ ⳡ ⳣ"),
  (0x2CEB, 2, "ⳬ ⳮ"),
  (0x2CF2, 1, "ⳳ"),
  (0x2D6F, 1, "ⵡ"),
  (0x2E9F, 1, "母"),
  (0x2EF3, 1, "龟"),
  (0x2F00, 1, "
    一 丨 丶 丿 乙 亅 二 亠 人 儿 入 八 冂 冖 冫 几 凵 刀 力 勹 匕 匚 匸 十 卜 卩 厂 厶 又 口 囗 土 士 夂 夊 夕 大 女 子 宀 寸 小 尢 尸
    屮 山 巛 工 己 巾 干 幺 广 廴 廾 弋 弓 彐 彡 彳 心 戈 戶 手 支 攴 文 斗 斤 方 无 日 曰 月 木 欠 止 歹 殳 毋 比 毛 氏 气 水 火 爪 父
    爻 爿 片 牙 牛 犬 玄 玉 瓜 瓦 甘 生 用 田 疋 疒 癶 白 皮 皿 目 矛 矢 石 示 禸 禾 穴 立 竹 米 糸 缶 网 羊 羽 老 而 耒 耳 聿 肉 臣 自
    至 臼 舌 舛 舟 艮 色 艸 虍 虫 血 行 衣 襾 見 角 言 谷 豆 豕 豸 貝 赤 走 足 身 車 辛 辰 辵 邑 酉 釆 里 金 長 門 阜 隶 隹 雨 靑 非 面
    革 韋 韭 音 頁 風 飛 食 首 香 馬 骨 高 髟 鬥 鬯 鬲 鬼 魚 鳥 鹵 鹿 麥 麻 黃 黍 黑 黹 黽 鼎 鼓 鼠 鼻 齊 齒 龍 龜 龠"),
  (0x3002, 1, "."),
  (0x3036, 1, "〒"),
  (0x3038, 1, "十 卄 卅"),
  (0x309F, 1, "より"),
  (0x30FF, 1, "コト"),
  (0x3131, 1, "
    ᄀ ᄁ ᆪ ᄂ ᆬ ᆭ ᄃ ᄄ ᄅ ᆰ ᆱ ᆲ ᆳ ᆴ ᆵ ᄚ ᄆ ᄇ ᄈ ᄡ ᄉ ᄊ ᄋ ᄌ ᄍ ᄎ ᄏ ᄐ ᄑ ᄒ ᅡ ᅢ ᅣ ᅤ ᅥ ᅦ ᅧ ᅨ ᅩ ᅪ ᅫ ᅬ ᅭ ᅮ
    ᅯ ᅰ ᅱ ᅲ ᅳ ᅴ ᅵ"),
  (0x3165, 1, "
    ᄔ ᄕ ᇇ ᇈ ᇌ ᇎ ᇓ ᇗ ᇙ ᄜ ᇝ ᇟ ᄝ ᄞ ᄠ ᄢ ᄣ ᄧ ᄩ ᄫ ᄬ ᄭ ᄮ ᄯ ᄲ ᄶ ᅀ ᅇ ᅌ ᇱ ᇲ ᅗ ᅘ ᅙ ᆄ ᆅ ᆈ ᆑ ᆒ ᆔ ᆞ ᆡ"),
  (0x3192, 1, "一 二 三 四 上 中 下 甲 乙 丙 丁 天 地 人"),
  (0x3200, 1, "
    (ᄀ) (ᄂ) (ᄃ) (ᄅ) (ᄆ) (ᄇ) (ᄉ) (ᄋ) (ᄌ) (ᄎ) (ᄏ) (ᄐ) (ᄑ) (ᄒ) (가) (나) (다) (라) (마) (바) (사) (아)
    (자) (차) (카) (타) (파) (하) (주) (오전) (오후)"),
  (0x3220, 1, "
    (一) (二) (三) (四) (五) (六) (七) (八) (九) (十) (月) (火) (水) (木) (金) (土) (日) (株) (有) (社) (名) (特)
    (財) (祝) (労) (代) (呼) (学) (監) (企) (資) (協) (祭) (休) (自) (至) 問 幼 文 箏"),
  (0x3250, 1, "
    pte 21 22 23 24 25 26 27 28 29 30 31 32 33 34 35 ᄀ ᄂ ᄃ ᄅ ᄆ ᄇ ᄉ ᄋ ᄌ ᄎ ᄏ ᄐ ᄑ ᄒ 가 나 다 라 마 바
    사 아 자 차 카 타 파 하 참고 주의 우"),
  (0x3280, 1, "
    一 二 三 四 五 六 七 八 九 十 月 火 水 木 金 土 日 株 有 社 名 特 財 祝 労 秘 男 女 適 優 印 注 項 休 写 正 上 中 下 左 右 医 宗 学
    監 企 資 協 夜 36 37 38 39 40 41 42 43 44 45 46 47 48 49 50 1月 2月 3月 4月 5月 6月 7月 8月 9月 10月
    11月 12月 hg erg ev ltd ア イ ウ エ オ カ キ ク ケ コ サ シ ス セ ソ タ チ ツ テ ト ナ ニ ヌ ネ ノ ハ ヒ フ ヘ ホ マ ミ ム
    メ モ ヤ ユ ヨ ラ リ ル レ ロ ワ ヰ ヱ ヲ 令和 アパート アルファ アンペア アール イニング インチ ウォン エスクード エーカー オンス オーム カイリ
    カラット カロリー ガロン ガンマ ギガ ギニー キュリー ギルダー キロ キログラム キロメートル キロワット グラム グラムトン クルゼイロ クローネ ケース コルナ
    コーポ サイクル サンチーム シリング センチ セント ダース デシ ドル トン ナノ ノット ハイツ パーセント パーツ バーレル ピアストル ピクル ピコ ビル ファラッド
    フィート ブッシェル フラン ヘクタール ペソ ペニヒ ヘルツ ペンス ページ ベータ ポイント ボルト ホン ポンド ホール ホーン マイクロ マイル マッハ マルク
    マンション ミクロン ミリ ミリバール メガ メガトン メートル ヤード ヤール ユアン リットル リラ ルピー ルーブル レム レントゲン ワット 0点 1点 2点 3点
    4点 5点 6点 7点 8点 9点 10点 11点 12点 13点 14点 15点 16点 17点 18点 19点 20点 21点 22点 23点 24点 hpa da au
    bar ov pc dm dm2 dm3 iu 平成 昭和 大正 明治 株式会社 pa na μa ma ka kb mb gb cal kcal pf nf μf μg mg
    kg hz khz mhz ghz thz μl ml dl kl fm nm μm mm cm km mm2 cm2 m2 km2 mm3 cm3 m3 km3 m∕s
    m∕s2 pa kpa mpa gpa rad rad∕s rad∕s2 ps ns μs ms pv nv μv mv kv mv pw nw μw mw kw mw kω
    mω"),
  (0x33C3, 1, "bq cc cd c∕kg"),
  (0x33C8, 1, "db gy ha hp in kk km kt lm ln log lx mb mil mol ph"),
  (0x33D9, 1, "
    ppm pr sr sv wb v∕m a∕m 1日 2日 3日 4日 5日 6日 7日 8日 9日 10日 11日 12日 13日 14日 15日 16日 17日 18日
    19日 20日 21日 22日 23日 24日 25日 26日 27日 28日 29日 30日 31日 gal"),
  (0xA640, 2, "ꙁ ꙃ ꙅ ꙇ ꙉ ꙋ ꙍ ꙏ ꙑ ꙓ ꙕ ꙗ ꙙ ꙛ ꙝ ꙟ ꙡ ꙣ ꙥ ꙧ ꙩ ꙫ ꙭ"),
  (0xA680, 2, "ꚁ ꚃ ꚅ ꚇ ꚉ ꚋ ꚍ ꚏ ꚑ ꚓ ꚕ ꚗ ꚙ ꚛ"),
  (0xA69C, 1, "ъ ь"),
  (0xA722, 2, "ꜣ ꜥ ꜧ ꜩ ꜫ ꜭ ꜯ"),
  (0xA732, 2, "ꜳ ꜵ ꜷ ꜹ ꜻ ꜽ ꜿ ꝁ ꝃ ꝅ ꝇ ꝉ ꝋ ꝍ ꝏ ꝑ ꝓ ꝕ ꝗ ꝙ ꝛ ꝝ ꝟ ꝡ ꝣ ꝥ ꝧ ꝩ ꝫ ꝭ ꝯ ꝯ"),
  (0xA779, 2, "ꝺ ꝼ"),
  (0xA77D, 1, "ᵹ ꝿ"),
  (0xA780, 2, "ꞁ ꞃ ꞅ ꞇ"),
  (0xA78B, 2, "ꞌ ɥ"),
  (0xA790, 2, "ꞑ ꞓ"),
  (0xA796, 2, "ꞗ ꞙ ꞛ ꞝ ꞟ ꞡ ꞣ ꞥ ꞧ ꞩ"),
  (0xA7AA, 1, "ɦ ɜ ɡ ɬ ɪ"),
  (0xA7B0, 1, "ʞ ʇ ʝ ꭓ ꞵ"),
  (0xA7B6, 2, "ꞷ ꞹ ꞻ ꞽ ꞿ ꟁ ꟃ"),
  (0xA7C4, 1, "ꞔ ʂ ᶎ ꟈ"),
  (0xA7C9, 1, "ꟊ"),
  (0xA7CB, 1, "ɤ ꟍ"),
  (0xA7CE, 2, "꟏ ꟑ ꟓ ꟕ ꟗ ꟙ ꟛ ƛ"),
  (0xA7F1, 1, "s c f q ꟶ"),
  (0xA7F8, 1, "ħ œ"),
  (0xAB5C, 1, "ꜧ ꬷ ɫ ꭒ"),
  (0xAB69, 1, "ʍ"),
  (0xAB70, 1, "
    Ꭰ Ꭱ Ꭲ Ꭳ Ꭴ Ꭵ Ꭶ Ꭷ Ꭸ Ꭹ Ꭺ Ꭻ Ꭼ Ꭽ Ꭾ Ꭿ Ꮀ Ꮁ Ꮂ Ꮃ Ꮄ Ꮅ Ꮆ Ꮇ Ꮈ Ꮉ Ꮊ Ꮋ Ꮌ Ꮍ Ꮎ Ꮏ Ꮐ Ꮑ Ꮒ Ꮓ Ꮔ Ꮕ Ꮖ Ꮗ Ꮘ Ꮙ Ꮚ Ꮛ
    Ꮜ Ꮝ Ꮞ Ꮟ Ꮠ Ꮡ Ꮢ Ꮣ Ꮤ Ꮥ Ꮦ Ꮧ Ꮨ Ꮩ Ꮪ Ꮫ Ꮬ Ꮭ Ꮮ Ꮯ Ꮰ Ꮱ Ꮲ Ꮳ Ꮴ Ꮵ Ꮶ Ꮷ Ꮸ Ꮹ Ꮺ Ꮻ Ꮼ Ꮽ Ꮾ Ꮿ"),
  (0xF900, 1, "
    豈 更 車 賈 滑 串 句 龜 龜 契 金 喇 奈 懶 癩 羅 蘿 螺 裸 邏 樂 洛 烙 珞 落 酪 駱 亂 卵 欄 爛 蘭 鸞 嵐 濫 藍 襤 拉 臘 蠟 廊 朗 浪 狼
    郎 來 冷 勞 擄 櫓 爐 盧 老 蘆 虜 路 露 魯 鷺 碌 祿 綠 菉 錄 鹿 論 壟 弄 籠 聾 牢 磊 賂 雷 壘 屢 樓 淚 漏 累 縷 陋 勒 肋 凜 凌 稜 綾
    菱 陵 讀 拏 樂 諾 丹 寧 怒 率 異 北 磻 便 復 不 泌 數 索 參 塞 省 葉 說 殺 辰 沈 拾 若 掠 略 亮 兩 凉 梁 糧 良 諒 量 勵 呂 女 廬 旅
    濾 礪 閭 驪 麗 黎 力 曆 歷 轢 年 憐 戀 撚 漣 煉 璉 秊 練 聯 輦 蓮 連 鍊 列 劣 咽 烈 裂 說 廉 念 捻 殮 簾 獵 令 囹 寧 嶺 怜 玲 瑩 羚
    聆 鈴 零 靈 領 例 禮 醴 隸 惡 了 僚 寮 尿 料 樂 燎 療 蓼 遼 龍 暈 阮 劉 杻 柳 流 溜 琉 留 硫 紐 類 六 戮 陸 倫 崙 淪 輪 律 慄 栗 率
    隆 利 吏 履 易 李 梨 泥 理 痢 罹 裏 裡 里 離 匿 溺 吝 燐 璘 藺 隣 鱗 麟 林 淋 臨 立 笠 粒 狀 炙 識 什 茶 刺 切 度 拓 糖 宅 洞 暴 輻
    行 降 見 廓 兀 嗀"),
  (0xFA10, 2, "塚 晴"),
  (0xFA15, 1, "凞 猪 益 礼 神 祥 福 靖 精 羽"),
  (0xFA20, 2, "蘒 諸"),
  (0xFA25, 1, "逸 都"),
  (0xFA2A, 1, "
    飯 飼 館 鶴 郞 隷 侮 僧 免 勉 勤 卑 喝 嘆 器 塀 墨 層 屮 悔 慨 憎 懲 敏 既 暑 梅 海 渚 漢 煮 爫 琢 碑 社 祉 祈 祐 祖 祝 禍 禎 穀 突
    節 練 縉 繁 署 者 臭 艹 艹 著 褐 視 謁 謹 賓 贈 辶 逸 難 響 頻 恵 𤋮 舘"),
  (0xFA70, 1, "
    並 况 全 侀 充 冀 勇 勺 喝 啕 喙 嗢 塚 墳 奄 奔 婢 嬨 廒 廙 彩 徭 惘 慎 愈 憎 慠 懲 戴 揄 搜 摒 敖 晴 朗 望 杖 歹 殺 流 滛 滋 漢 瀞
    煮 瞧 爵 犯 猪 瑱 甆 画 瘝 瘟 益 盛 直 睊 着 磌 窱 節 类 絛 練 缾 者 荒 華 蝹 襁 覆 視 調 諸 請 謁 諾 諭 謹 變 贈 輸 遲 醙 鉶 陼 難
    靖 韛 響 頋 頻 鬒 龜 𢡊 𢡄 𣏕 㮝 䀘 䀹 𥉉 𥳐 𧻓 齃 龎"),
  (0xFB00, 1, "ff fi fl ffi ffl st st"),
  (0xFB13, 1, "մն մե մի վն մխ"),
  (0xFB1D, 1, "יִ"),
  (0xFB1F, 1, "ײַ ע א ד ה כ ל ם ר ת + שׁ שׂ שּׁ שּׂ אַ אָ אּ בּ גּ דּ הּ וּ זּ"),
  (0xFB38, 1, "טּ יּ ךּ כּ לּ"),
  (0xFB3E, 1, "מּ"),
  (0xFB40, 1, "נּ סּ"),
  (0xFB43, 1, "ףּ פּ"),
  (0xFB46, 1, "
    צּ קּ רּ שּ תּ וֹ בֿ כֿ פֿ אל ٱ ٱ ٻ ٻ ٻ ٻ پ پ پ پ ڀ ڀ ڀ ڀ ٺ ٺ ٺ ٺ ٿ ٿ ٿ ٿ ٹ ٹ ٹ ٹ ڤ ڤ ڤ
    ڤ ڦ ڦ ڦ ڦ ڄ ڄ ڄ ڄ ڃ ڃ ڃ ڃ چ چ چ چ ڇ ڇ ڇ ڇ ڍ ڍ ڌ ڌ ڎ ڎ ڈ ڈ ژ ژ ڑ ڑ ک ک ک ک گ گ گ گ ڳ ڳ ڳ
    ڳ ڱ ڱ ڱ ڱ ں ں ڻ ڻ ڻ ڻ ۀ ۀ ہ ہ ہ ہ ھ ھ ھ ھ ے ے ۓ ۓ"),
  (0xFBD3, 1, "
    ڭ ڭ ڭ ڭ ۇ ۇ ۆ ۆ ۈ ۈ ۇٴ ۋ ۋ ۅ ۅ ۉ ۉ ې ې ې ې ى ى ئا ئا ئە ئە ئو ئو ئۇ ئۇ ئۆ ئۆ ئۈ ئۈ ئې ئې
    ئې ئى ئى ئى ی ی ی ی ئج ئح ئم ئى ئي بج بح بخ بم بى بي تج تح تخ تم تى تي ثج ثم ثى ثي جح جم
    حج حم خج خح خم سج سح سخ سم صح صم ضج ضح ضخ ضم طح طم ظم عج عم غج غم فج فح فخ فم فى في قح
    قم قى قي كا كج كح كخ كل كم كى كي لج لح لخ لم لى لي مج مح مخ مم مى مي نج نح نخ نم نى ني
    هج هم هى هي يج يح يخ يم يى يي ذٰ رٰ ىٰ"),
  (0xFC64, 1, "
    ئر ئز ئم ئن ئى ئي بر بز بم بن بى بي تر تز تم تن تى تي ثر ثز ثم ثن ثى ثي فى في قى قي كا
    كل كم كى كي لم لى لي ما مم نر نز نم نن نى ني ىٰ ير يز يم ين يى يي ئج ئح ئخ ئم ئه بج بح
    بخ بم به تج تح تخ تم ته ثم جح جم حج حم خج خم سج سح سخ سم صح صخ صم ضج ضح ضخ ضم طح ظم عج
    عم غج غم فج فح فخ فم قح قم كج كح كخ كل كم لج لح لخ لم له مج مح مخ مم نج نح نخ نم نه هج
    هم هٰ يج يح يخ يم يه ئم ئه بم به تم ته ثم ثه سم سه شم شه كل كم لم نم نه يم يه ـَّ ـُّ
    ـِّ طى طي عى عي غى غي سى سي شى شي حى حي جى جي خى خي صى صي ضى ضي شج شح شخ شم شر سر صر ضر
    طى طي عى عي غى غي سى سي شى شي حى حي جى جي خى خي صى صي ضى ضي شج شح شخ شم شر سر صر ضر شج
    شح شخ شم سه شه طم سج سح سخ شج شح شخ طم ظم اً اً"),
  (0xFD50, 1, "
    تجم تحج تحج تحم تخم تمج تمح تمخ جمح جمح حمي حمى سحج سجح سجى سمح سمح سمج سمم سمم صحح صحح
    صمم شحم شحم شجي شمخ شمخ شمم شمم ضحى ضخم ضخم طمح طمح طمم طمي عجم عمم عمم عمى غمم غمي غمى
    فخم فخم قمح قمم لحم لحي لحى لجج لجج لخم لخم لمح لمح محج محم محي مجح مجم مخج مخم"),
  (0xFD92, 1, "
    مجخ همج همم نحم نحى نجم نجم نجى نمي نمى يمم يمم بخي تجي تجى تخي تخى تمي تمى جمي جحى جمى
    سخى صحي شحي ضحي لجي لمي يحي يجي يمي ممي قمي نحي قمح لحم عمي كمي نجح مخي لجم كمم لجم نجح
    جحي حجي مجي فمي بحي كمم عجم صمم سخي نجي"),
  (0xFDF0, 1, "صلے قلے الله اكبر محمد صلعم رسول عليه وسلم صلى"),
  (0xFDFC, 1, "ریال"),
  (0xFE10, 1, ", 、"),
  (0xFE13, 1, ": ; ! ? 〖 〗"),
  (0xFE31, 1, "— – _ _ ( ) \x7b \x7d 〔 〕 【 】 《 》 〈 〉 「 」 『 』"),
  (0xFE47, 1, "[ ]"),
  (0xFE4D, 1, "_ _ _ , 、"),
  (0xFE54, 1, "; : ? ! — ( ) \x7b \x7d 〔 〕 # & * + - < > ="),
  (0xFE68, 1, "\\ $ % @"),
  (0xFE71, 1, "ـً"),
  (0xFE77, 2, "ـَ ـُ ـِ ـّ"),
  (0xFE7F, 1, "
    ـْ ء آ آ أ أ ؤ ؤ إ إ ئ ئ ئ ئ ا ا ب ب ب ب ة ة ت ت ت ت ث ث ث ث ج ج ج ج ح ح ح ح خ خ خ خ د د
    ذ ذ ر ر ز ز س س س س ش ش ش ش ص ص ص ص ض ض ض ض ط ط ط ط ظ ظ ظ ظ ع ع ع ع غ غ غ غ ف ف ف ف ق ق
    ق ق ك ك ك ك ل ل ل ل م م م م ن ن ن ن ه ه ه ه و و ى ى ي ي ي ي لآ لآ لأ لأ لإ لإ لا لا"),
  (0xFF01, 1, "
    ! \" # $ % & ' ( ) * + , - . / 0 1 2 3 4 5 6 7 8 9 : ; < = > ? @ a b c d e f g h i j k l
    m n o p q r s t u v w x y z [ \\ ] ^ _ ` a b c d e f g h i j k l m n o p q r s t u v w x
    y z \x7b | \x7d ~ ⦅ ⦆ . 「 」 、 ・ ヲ ァ ィ ゥ ェ ォ ャ ュ ョ ッ ー ア イ ウ エ オ カ キ ク ケ コ サ シ ス セ ソ タ チ
    ツ テ ト ナ ニ ヌ ネ ノ ハ ヒ フ ヘ ホ マ ミ ム メ モ ヤ ユ ヨ ラ リ ル レ ロ ワ ン ゙ ゚"),
  (0xFFA1, 1, "ᄀ ᄁ ᆪ ᄂ ᆬ ᆭ ᄃ ᄄ ᄅ ᆰ ᆱ ᆲ ᆳ ᆴ ᆵ ᄚ ᄆ ᄇ ᄈ ᄡ ᄉ ᄊ ᄋ ᄌ ᄍ ᄎ ᄏ ᄐ ᄑ ᄒ"),
  (0xFFC2, 1, "ᅡ ᅢ ᅣ ᅤ ᅥ ᅦ"),
  (0xFFCA, 1, "ᅧ ᅨ ᅩ ᅪ ᅫ ᅬ"),
  (0xFFD2, 1, "ᅭ ᅮ ᅯ ᅰ ᅱ ᅲ"),
  (0xFFDA, 1, "ᅳ ᅴ ᅵ"),
  (0xFFE0, 1, "¢ £ ¬"),
  (0xFFE4, 1, "¦ ¥ ₩"),
  (0xFFE8, 1, "│ ← ↑ → ↓ ■ ○"),
  (0x10400, 1, "𐐨 𐐩 𐐪 𐐫 𐐬 𐐭 𐐮 𐐯 𐐰 𐐱 𐐲 𐐳 𐐴 𐐵 𐐶 𐐷 𐐸 𐐹 𐐺 𐐻 𐐼 𐐽 𐐾 𐐿 𐑀 𐑁 𐑂 𐑃 𐑄 𐑅 𐑆 𐑇 𐑈 𐑉 𐑊 𐑋 𐑌 𐑍 𐑎 𐑏"),
  (0x104B0, 1, "𐓘 𐓙 𐓚 𐓛 𐓜 𐓝 𐓞 𐓟 𐓠 𐓡 𐓢 𐓣 𐓤 𐓥 𐓦 𐓧 𐓨 𐓩 𐓪 𐓫 𐓬 𐓭 𐓮 𐓯 𐓰 𐓱 𐓲 𐓳 𐓴 𐓵 𐓶 𐓷 𐓸 𐓹 𐓺 𐓻"),
  (0x10570, 1, "𐖗 𐖘 𐖙 𐖚 𐖛 𐖜 𐖝 𐖞 𐖟 𐖠 𐖡"),
  (0x1057C, 1, "𐖣 𐖤 𐖥 𐖦 𐖧 𐖨 𐖩 𐖪 𐖫 𐖬 𐖭 𐖮 𐖯 𐖰 𐖱"),
  (0x1058C, 1, "𐖳 𐖴 𐖵 𐖶 𐖷 𐖸 𐖹"),
  (0x10594, 1, "𐖻 𐖼"),
  (0x10781, 1, "ː ˑ æ ʙ ɓ"),
  (0x10787, 1, "
    ʣ ꭦ ʥ ʤ ɖ ɗ ᶑ ɘ ɞ ʩ ɤ ɢ ɠ ʛ ħ ʜ ɧ ʄ ʪ ʫ ɬ 𝼄 ꞎ ɮ 𝼅 ʎ 𝼆 ø ɶ ɷ q ɺ 𝼈 ɽ ɾ ʀ ʨ ʦ ꭧ ʧ ʈ ⱱ"),
  (0x107B2, 1, "ʏ ʡ ʢ ʘ ǀ ǁ ǂ 𝼊 𝼞"),
  (0x10C80, 1, "
    𐳀 𐳁 𐳂 𐳃 𐳄 𐳅 𐳆 𐳇 𐳈 𐳉 𐳊 𐳋 𐳌 𐳍 𐳎 𐳏 𐳐 𐳑 𐳒 𐳓 𐳔 𐳕 𐳖 𐳗 𐳘 𐳙 𐳚 𐳛 𐳜 𐳝 𐳞 𐳟 𐳠 𐳡 𐳢 𐳣 𐳤 𐳥 𐳦 𐳧 𐳨 𐳩 𐳪 𐳫
    𐳬 𐳭 𐳮 𐳯 𐳰 𐳱 𐳲"),
  (0x10D50, 1, "𐵰 𐵱 𐵲 𐵳 𐵴 𐵵 𐵶 𐵷 𐵸 𐵹 𐵺 𐵻 𐵼 𐵽 𐵾 𐵿 𐶀 𐶁 𐶂 𐶃 𐶄 𐶅"),
  (0x118A0, 1, "𑣀 𑣁 𑣂 𑣃 𑣄 𑣅 𑣆 𑣇 𑣈 𑣉 𑣊 𑣋 𑣌 𑣍 𑣎 𑣏 𑣐 𑣑 𑣒 𑣓 𑣔 𑣕 𑣖 𑣗 𑣘 𑣙 𑣚 𑣛 𑣜 𑣝 𑣞 𑣟"),
  (0x16E40, 1, "𖹠 𖹡 𖹢 𖹣 𖹤 𖹥 𖹦 𖹧 𖹨 𖹩 𖹪 𖹫 𖹬 𖹭 𖹮 𖹯 𖹰 𖹱 𖹲 𖹳 𖹴 𖹵 𖹶 𖹷 𖹸 𖹹 𖹺 𖹻 𖹼 𖹽 𖹾 𖹿"),
  (0x16EA0, 1, "𖺻 𖺼 𖺽 𖺾 𖺿 𖻀 𖻁 𖻂 𖻃 𖻄 𖻅 𖻆 𖻇 𖻈 𖻉 𖻊 𖻋 𖻌 𖻍 𖻎 𖻏 𖻐 𖻑 𖻒 𖻓"),
  (0x1CCD6, 1, "a b c d e f g h i j k l m n o p q r s t u v w x y z 0 1 2 3 4 5 6 7 8 9"),
  (0x1D15E, 1, "𝅗𝅥 𝅘𝅥 𝅘𝅥𝅮 𝅘𝅥𝅯 𝅘𝅥𝅰 𝅘𝅥𝅱 𝅘𝅥𝅲"),
  (0x1D1BB, 1, "𝆹𝅥 𝆺𝅥 𝆹𝅥𝅮 𝆺𝅥𝅮 𝆹𝅥𝅯 𝆺𝅥𝅯"),
  (0x1D400, 1, "
    a b c d e f g h i j k l m n o p q r s t u v w x y z a b c d e f g h i j k l m n o p q r
    s t u v w x y z a b c d e f g h i j k l m n o p q r s t u v w x y z a b c d e f g"),
  (0x1D456, 1, "
    i j k l m n o p q r s t u v w x y z a b c d e f g h i j k l m n o p q r s t u v w x y z
    a b c d e f g h i j k l m n o p q r s t u v w x y z a"),
  (0x1D49E, 1, "c d"),
  (0x1D4A2, 1, "g"),
  (0x1D4A5, 1, "j k"),
  (0x1D4A9, 1, "n o p q"),
  (0x1D4AE, 1, "s t u v w x y z a b c d"),
  (0x1D4BB, 1, "f"),
  (0x1D4BD, 1, "h i j k l m n"),
  (0x1D4C5, 1, "
    p q r s t u v w x y z a b c d e f g h i j k l m n o p q r s t u v w x y z a b c d e f g
    h i j k l m n o p q r s t u v w x y z a b"),
  (0x1D507, 1, "d e f g"),
  (0x1D50D, 1, "j k l m n o p q"),
  (0x1D516, 1, "s t u v w x y"),
  (0x1D51E, 1, "a b c d e f g h i j k l m n o p q r s t u v w x y z a b"),
  (0x1D53B, 1, "d e f g"),
  (0x1D540, 1, "i j k l m"),
  (0x1D546, 1, "o"),
  (0x1D54A, 1, "s t u v w x y"),
  (0x1D552, 1, "
    a b c d e f g h i j k l m n o p q r s t u v w x y z a b c d e f g h i j k l m n o p q r
    s t u v w x y z a b c d e f g h i j k l m n o p q r s t u v w x y z a b c d e f g h i j
    k l m n o p q r s t u v w x y z a b c d e f g h i j k l m n o p q r s t u v w x y z a b
    c d e f g h i j k l m n o p q r s t u v w x y z a b c d e f g h i j k l m n o p q r s t
    u v w x y z a b c d e f g h i j k l m n o p q r s t u v w x y z a b c d e f g h i j k l
    m n o p q r s t u v w x y z a b c d e f g h i j k l m n o p q r s t u v w x y z a b c d
    e f g h i j k l m n o p q r s t u v w x y z a b c d e f g h i j k l m n o p q r s t u v
    w x y z a b c d e f g h i j k l m n o p q r s t u v w x y z ı ȷ"),
  (0x1D6A8, 1, "
    α β γ δ ε ζ η θ ι κ λ μ ν ξ ο π ρ θ σ τ υ φ χ ψ ω ∇ α β γ δ ε ζ η θ ι κ λ μ ν ξ ο π ρ σ
    σ τ υ φ χ ψ ω ∂ ε θ κ φ ρ π α β γ δ ε ζ η θ ι κ λ μ ν ξ ο π ρ θ σ τ υ φ χ ψ ω ∇ α β γ δ
    ε ζ η θ ι κ λ μ ν ξ ο π ρ σ σ τ υ φ χ ψ ω ∂ ε θ κ φ ρ π α β γ δ ε ζ η θ ι κ λ μ ν ξ ο π
    ρ θ σ τ υ φ χ ψ ω ∇ α β γ δ ε ζ η θ ι κ λ μ ν ξ ο π ρ σ σ τ υ φ χ ψ ω ∂ ε θ κ φ ρ π α β
    γ δ ε ζ η θ ι κ λ μ ν ξ ο π ρ θ σ τ υ φ χ ψ ω ∇ α β γ δ ε ζ η θ ι κ λ μ ν ξ ο π ρ σ σ τ
    υ φ χ ψ ω ∂ ε θ κ φ ρ π α β γ δ ε ζ η θ ι κ λ μ ν ξ ο π ρ θ σ τ υ φ χ ψ ω ∇ α β γ δ ε ζ
    η θ ι κ λ μ ν ξ ο π ρ σ σ τ υ φ χ ψ ω ∂ ε θ κ φ ρ π ϝ ϝ"),
  (0x1D7CE, 1, "
    0 1 2 3 4 5 6 7 8 9 0 1 2 3 4 5 6 7 8 9 0 1 2 3 4 5 6 7 8 9 0 1 2 3 4 5 6 7 8 9 0 1 2 3
    4 5 6 7 8 9"),
  (0x1E030, 1, "
    а б в г д е ж з и к л м о п р с т у ф х ц ч ш ы э ю ꚉ ә і ј ө ү ӏ а б в г д е ж з и к л
    о п с у ф х ц ч ш ъ ы ґ і ѕ џ ҫ ꙑ ұ"),
  (0x1E900, 1, "𞤢 𞤣 𞤤 𞤥 𞤦 𞤧 𞤨 𞤩 𞤪 𞤫 𞤬 𞤭 𞤮 𞤯 𞤰 𞤱 𞤲 𞤳 𞤴 𞤵 𞤶 𞤷 𞤸 𞤹 𞤺 𞤻 𞤼 𞤽 𞤾 𞤿 𞥀 𞥁 𞥂 𞥃"),
  (0x1EE00, 1, "ا ب ج د"),
  (0x1EE05, 1, "و ز ح ط ي ك ل م ن س ع ف ص ق ر ش ت ث خ ذ ض ظ غ ٮ ں ڡ ٯ"),
  (0x1EE21, 1, "ب ج"),
  (0x1EE24, 1, "ه"),
  (0x1EE27, 1, "ح"),
  (0x1EE29, 1, "ي ك ل م ن س ع ف ص ق"),
  (0x1EE34, 1, "ش ت ث خ"),
  (0x1EE39, 2, "ض غ"),
  (0x1EE42, 1, "ج"),
  (0x1EE47, 2, "ح ي ل"),
  (0x1EE4D, 1, "ن س ع"),
  (0x1EE51, 1, "ص ق"),
  (0x1EE54, 1, "ش"),
  (0x1EE57, 2, "خ ض غ ں ٯ"),
  (0x1EE61, 1, "ب ج"),
  (0x1EE64, 1, "ه"),
  (0x1EE67, 1, "ح ط ي ك"),
  (0x1EE6C, 1, "م ن س ع ف ص ق"),
  (0x1EE74, 1, "ش ت ث خ"),
  (0x1EE79, 1, "ض ظ غ ٮ"),
  (0x1EE7E, 1, "ڡ"),
  (0x1EE80, 1, "ا ب ج د ه و ز ح ط ي"),
  (0x1EE8B, 1, "ل م ن س ع ف ص ق ر ش ت ث خ ذ ض ظ غ"),
  (0x1EEA1, 1, "ب ج د"),
  (0x1EEA5, 1, "و ز ح ط ي"),
  (0x1EEAB, 1, "ل م ن س ع ف ص ق ر ش ت ث خ ذ ض ظ غ"),
  (0x1F101, 1, "0, 1, 2, 3, 4, 5, 6, 7, 8, 9,"),
  (0x1F110, 1, "
    (a) (b) (c) (d) (e) (f) (g) (h) (i) (j) (k) (l) (m) (n) (o) (p) (q) (r) (s) (t) (u) (v)
    (w) (x) (y) (z) 〔s〕 c r cd wz"),
  (0x1F130, 1, "a b c d e f g h i j k l m n o p q r s t u v w x y z hv mv sd ss ppv wc"),
  (0x1F16A, 1, "mc md mr"),
  (0x1F190, 1, "dj"),
  (0x1F200, 1, "ほか ココ サ"),
  (0x1F210, 1, "
    手 字 双 デ 二 多 解 天 交 映 無 料 前 後 再 新 初 終 生 販 声 吹 演 投 捕 一 三 遊 左 中 右 指 走 打 禁 空 合 満 有 月 申 割 営 配"),
  (0x1F240, 1, "〔本〕 〔三〕 〔二〕 〔安〕 〔点〕 〔打〕 〔盗〕 〔勝〕 〔敗〕"),
  (0x1F250, 1, "得 可"),
  (0x1FBF0, 1, "0 1 2 3 4 5 6 7 8 9"),
  (0x2F800, 1, "
    丽 丸 乁 𠄢 你 侮 侻 倂 偺 備 僧 像 㒞 𠘺 免 兔 兤 具 𠔜 㒹 內 再 𠕋 冗 冤 仌 冬 况 𩇟 凵 刃 㓟 刻 剆 割 剷 㔕 勇 勉 勤 勺 包 匆 北
    卉 卑 博 即 卽 卿 卿 卿 𠨬 灰 及 叟 𠭣 叫 叱 吆 咞 吸 呈 周 咢 哶 唐 啓 啣 善 善 喙 喫 喳 嗂 圖 嘆 圗 噑 噴 切 壮 城 埴 堍 型 堲 報
    墬 𡓤 売 壷 夆 多 夢 奢 𡚨 𡛪 姬 娛 娧 姘 婦 㛮 㛼 嬈 嬾 嬾 𡧈 寃 寘 寧 寳 𡬘 寿 将 当 尢 㞁 屠 屮 峀 岍 𡷤 嵃 𡷦 嵮 嵫 嵼 巡 巢 㠯
    巽 帨 帽 幩 㡢 𢆃 㡼 庰 庳 庶 廊 𪎒 廾 𢌱 𢌱 舁 弢 弢 㣇 𣊸 𦇚 形 彫 㣣 徚 忍 志 忹 悁 㤺 㤜 悔 𢛔 惇 慈 慌 慎 慌 慺 憎 憲 憤 憯 懞
    懲 懶 成 戛 扝 抱 拔 捐 𢬌 挽 拼 捨 掃 揤 𢯱 搢 揅 掩 㨮 摩 摾 撝 摷 㩬 敏 敬 𣀊 旣 書 晉 㬙 暑 㬈 㫤 冒 冕 最 暜 肭 䏙 朗 望 朡 杞
    杓 𣏃 㭉 柺 枅 桒 梅 𣑭 梎 栟 椔 㮝 楂 榣 槪 檨 𣚣 櫛 㰘 次 𣢧 歔 㱎 歲 殟 殺 殻 𣪍 𡴋 𣫺 汎 𣲼 沿 泍 汧 洖 派 海 流 浩 浸 涅 𣴞 洴
    港 湮 㴳 滋 滇 𣻑 淹 潮 𣽞 𣾎 濆 瀹 瀞 瀛 㶖 灊 災 灷 炭 𠔥 煅 𤉣 熜 𤎫 爨 爵 牐 𤘈 犀 犕 𤜵 𤠔 獺 王 㺬 玥 㺸 㺸 瑇 瑜 瑱 璅 瓊 㼛
    甤 𤰶 甾 𤲒 異 𢆟 瘐 𤾡 𤾸 𥁄 㿼 䀈 直 𥃳 𥃲 𥄙 𥄳 眞 真 真 睊 䀹 瞋 䁆 䂖 𥐝 硎 碌 磌 䃣 𥘦 祖 𥚚 𥛅 福 秫 䄯 穀 穊 穏 𥥼 𥪧 𥪧 竮
    䈂 𥮫 篆 築 䈧 𥲀 糒 䊠 糨 糣 紀 𥾆 絣 䌁 緇 縂 繅 䌴 𦈨 𦉇 䍙 𦋙 罺 𦌾 羕 翺 者 𦓚 𦔣 聠 𦖨 聰 𣍟 䏕 育 脃 䐋 脾 媵 𦞧 𦞵 𣎓 𣎜 舁
    舄 辞 䑫 芑 芋 芝 劳 花 芳 芽 苦 𦬼 若 茝 荣 莭 茣 莽 菧 著 荓 菊 菌 菜 𦰶 𦵫 𦳕 䔫 蓱 蓳 蔖 𧏊 蕤 𦼬 䕝 䕡 𦾱 𧃒 䕫 虐 虜 虧 虩 蚩
    蚈 蜎 蛢 蝹 蜨 蝫 螆 䗗 蟡 蠁 䗹 衠 衣 𧙧 裗 裞 䘵 裺 㒻 𧢮 𧥦 䚾 䛇 誠 諭 變 豕 𧲨 貫 賁 贛 起 𧼯 𠠄 跋 趼 跰 𠣞 軔 輸 𨗒 𨗭 邔 郱
    鄑 𨜮 鄛 鈸 鋗 鋘 鉼 鏹 鐕 𨯺 開 䦕 閷 𨵷 䧦 雃 嶲 霣 𩅅 𩈚 䩮 䩶 韠 𩐊 䪲 𩒖 頋 頋 頩 𩖶 飢 䬳 餩 馧 駂 駾 䯎 𩬰 鬒 鱀 鳽 䳎 䳭 鵧
    𪃎 䳸 𪄅 𪈎 𪊑 麻 䵖 黹 黾 鼅 鼏 鼖 鼻 𪘀")]

/-- Neighbouring characters with another form. -/
structure FormRun where
  start : Nat
  step : Nat
  forms : Array (List Char)

/-- The runs in the order of their starts. They do not overlap. -/
def formRuns : Array FormRun :=
  (formTable.map fun (start, step, forms) =>
    { start, step, forms := (Text.tableWords forms).toArray : FormRun }).toArray

/-- The characters that leave no trace. -/
def ignored : Text.CodePoints := .ofTable "
  AD 34F 115F-1160 17B4-17B5 180B-180F 200B 2060-2064 206A-206F 3164 FE00-FE0F FEFF FFA0
  1BCA0-1BCA3 1D173-1D17A E0100-E01EF"

/-- The characters that cannot be in a domain name. -/
def excluded : Text.CodePoints := .ofTable "
  80-A0 A8 AF B4 B8 2D8-2DD 378-37A 380-38D 3A2 530-558 58B-58C 590 5C8-5CF 5EB-5EE 5F5-605 61C
  6DD 70E-70F 74B-74C 7B2-7BF 7FB-7FC 82E-82F 83F 85C-85D 85F 86B-86F 890-896 8E2 984 98D-98E
  991-992 9A9 9B1 9B3-9B5 9BA-9BB 9C5-9C6 9C9-9CA 9CF-9D6 9D8-9DE 9E4-9E5 9FF-A00 A04 A0B-A0E
  A11-A12 A29 A31 A34 A37 A3A-A3B A3D A43-A46 A49-A4A A4E-A50 A52-A58 A5D-A65 A77-A80 A84 A8E
  A92 AA9 AB1 AB4 ABA-ABB AC6 ACA ACE-ACF AD1-ADF AE4-AE5 AF2-AF8 B00 B04 B0D-B0E B11-B12 B29
  B31 B34 B3A-B3B B45-B46 B49-B4A B4E-B54 B58-B5E B64-B65 B78-B81 B84 B8B-B8D B91 B96-B98 B9B
  B9D BA0-BA2 BA5-BA7 BAB-BAD BBA-BBD BC3-BC5 BC9 BCE-BCF BD1-BD6 BD8-BE5 BFB-BFF C0D C11 C29
  C3A-C3B C45 C49 C4E-C54 C57 C5B C5E-C5F C64-C65 C70-C76 C8D C91 CA9 CB4 CBA-CBB CC5 CC9
  CCE-CD4 CD7-CDB CDF CE4-CE5 CF0 CF4-CFF D0D D11 D45 D49 D50-D53 D64-D65 D80 D84 D97-D99 DB2
  DBC DBE-DBF DC7-DC9 DCB-DCE DD5 DD7 DE0-DE5 DF0-DF1 DF5-E00 E3B-E3E E5C-E80 E83 E85 E8B EA4
  EA6 EBE-EBF EC5 EC7 ECF EDA-EDB EE0-EFF F48 F6D-F70 F98 FBD FCD FDB-FFF 10C6-10CF 1249
  124E-124F 1257 1259 125E-125F 1289 128E-128F 12B1 12B6-12B7 12BF 12C1 12C6-12C7 12D7 1311
  1316-1317 135B-135C 137D-137F 139A-139F 13F6-13FF 1680 169D-169F 16F9-16FF 1716-171E 1737-173F
  1754-175F 176D 1771 1774-177F 17DE-17DF 17EA-17EF 17FA-17FF 181A-181F 1879-187F 18AB-18AF
  18F6-18FF 191F 192C-192F 193C-193F 1941-1943 196E-196F 1975-197F 19AC-19AF 19CA-19CF 19DB-19DD
  1A1C-1A1D 1A5F 1A7D-1A7E 1A8A-1A8F 1A9A-1A9F 1AAE-1AAF 1ADE-1ADF 1AEC-1AFF 1B4D 1BF4-1BFB
  1C38-1C3A 1C4A-1C4C 1C8B-1CBC 1CC8-1CCF 1CFB-1CFF 1F16-1F1F 1F46-1F4F 1F58-1F5E 1F7E-1F7F 1FB5
  1FBD-1FC5 1FCD-1FCF 1FD4-1FD5 1FDC-1FDF 1FED-1FF5 1FFD-200A 200E-200F 2017 2024-2026 2028-202F
  203E 205F-209F 20C2-20CF 20F1-20FF 218C-218F 242A-243F 244B-249B 2B74-2B75 2CF4-2CF8 2D26
  2D28-2D2C 2D2E-2D2F 2D68-2D6E 2D71-2D7E 2D97-2D9F 2DA7 2DAF 2DB7 2DBF 2DC7 2DCF 2DD7 2DDF
  2E5E-2E7F 2E9A 2EF4-3000 3040 3097-3098 309B-309C 3100-3104 3130-318F 31E6-31EF 321F 33C2-33D8
  A48D-A48F A4C7-A4CF A62C-A63F A6F8-A6FF A7DD-A7F0 A82D-A82F A83A-A83F A878-A87F A8C6-A8CD
  A8DA-A8DF A954-A95E A97D-A97F A9CE A9DA-A9DD A9FF AA37-AA3F AA4E-AA4F AA5A-AA5B AAC3-AADA
  AAF7-AB00 AB07-AB08 AB0F-AB10 AB17-AB1F AB27 AB2F AB6C-AB6F ABEE-ABEF ABFA-ABFF D7A4-D7AF
  D7C7-D7CA D7FC-F8FF FA6E-FB1C FB37-FB45 FC5E-FC63 FDD0-FDFB FE12-FE1F FE30 FE49-FE72 FE74-FFFF
  1000C 10027 1003B 1003E 1004E-1004F 1005E-1007F 100FB-100FF 10103-10106 10134-10136 1018F
  1019D-1019F 101A1-101CF 101FE-1027F 1029D-1029F 102D1-102DF 102FC-102FF 10324-1032C
  1034B-1034F 1037B-1037F 1039E 103C4-103C7 103D6-103FF 1049E-1049F 104AA-104D7 104FC-104FF
  10528-1052F 10564-1056E 1057B-10596 105A2 105B2 105BA 105BD-105BF 105F4-105FF 10737-1073F
  10756-1075F 10768-1077F 10786-107FF 10806-10807 10809 10836 10839-1083B 1083D-1083E 10856
  1089F-108A6 108B0-108DF 108F3 108F6-108FA 1091C-1091E 1093A-1093E 1095A-1097F 109B8-109BB
  109D0-109D1 10A04 10A07-10A0B 10A14 10A18 10A36-10A37 10A3B-10A3E 10A49-10A4F 10A59-10A5F
  10AA0-10ABF 10AE7-10AEA 10AF7-10AFF 10B36-10B38 10B56-10B57 10B73-10B77 10B92-10B98
  10B9D-10BA8 10BB0-10BFF 10C49-10CBF 10CF3-10CF9 10D28-10D2F 10D3A-10D3F 10D66-10D68
  10D86-10D8D 10D90-10E5F 10E7F 10EAA 10EAE-10EAF 10EB2-10EC1 10EC8-10ECF 10ED9-10EF9
  10F28-10F2F 10F5A-10F6F 10F8A-10FAF 10FCC-10FDF 10FF7-10FFF 1104E-11051 11076-1107E 110BD
  110C3-110CF 110E9-110EF 110FA-110FF 11135 11148-1114F 11177-1117F 111E0 111F5-111FF 11212
  11242-1127F 11287 11289 1128E 1129E 112AA-112AF 112EB-112EF 112FA-112FF 11304 1130D-1130E
  11311-11312 11329 11331 11334 1133A 11345-11346 11349-1134A 1134E-1134F 11351-11356
  11358-1135C 11364-11365 1136D-1136F 11375-1137F 1138A 1138C-1138D 1138F 113B6 113C1
  113C3-113C4 113C6 113CB 113D6 113D9-113E0 113E3-113FF 1145C 11462-1147F 114C8-114CF
  114DA-1157F 115B6-115B7 115DE-115FF 11645-1164F 1165A-1165F 1166D-1167F 116BA-116BF
  116CA-116CF 116E4-116FF 1171B-1171C 1172C-1172F 11747-117FF 1183C-1189F 118F3-118FE
  11907-11908 1190A-1190B 11914 11917 11936 11939-1193A 11947-1194F 1195A-1199F 119A8-119A9
  119D8-119D9 119E5-119FF 11A48-11A4F 11AA3-11AAF 11AF9-11AFF 11B0A-11B5F 11B68-11BBF
  11BE2-11BEF 11BFA-11BFF 11C09 11C37 11C46-11C4F 11C6D-11C6F 11C90-11C91 11CA8 11CB7-11CFF
  11D07 11D0A 11D37-11D39 11D3B 11D3E 11D48-11D4F 11D5A-11D5F 11D66 11D69 11D8F 11D92
  11D99-11D9F 11DAA-11DAF 11DDC-11DDF 11DEA-11EDF 11EF9-11EFF 11F11 11F3B-11F3D 11F5B-11FAF
  11FB1-11FBF 11FF2-11FFE 1239A-123FF 1246F 12475-1247F 12544-12F8F 12FF3-12FFF 13430-1343F
  13456-1345F 143FB-143FF 14647-160FF 1613A-167FF 16A39-16A3F 16A5F 16A6A-16A6D 16ABF
  16ACA-16ACF 16AEE-16AEF 16AF6-16AFF 16B46-16B4F 16B5A 16B62 16B78-16B7C 16B90-16D3F
  16D7A-16E3F 16E9B-16EBA 16ED4-16EFF 16F4B-16F4E 16F88-16F8E 16FA0-16FDF 16FE5-16FEF
  16FF7-16FFF 18CD6-18CFE 18D1F-18D7F 18DF3-1AFEF 1AFF4 1AFFC 1AFFF 1B123-1B131 1B133-1B14F
  1B153-1B154 1B156-1B163 1B168-1B16F 1B2FC-1BBFF 1BC6B-1BC6F 1BC7D-1BC7F 1BC89-1BC8F
  1BC9A-1BC9B 1BCA4-1CBFF 1CCFD-1CCFF 1CEB4-1CEB9 1CED1-1CEDF 1CEF1-1CEFF 1CF2E-1CF2F
  1CF47-1CF4F 1CFC4-1CFFF 1D0F6-1D0FF 1D127-1D128 1D1EB-1D1FF 1D246-1D2BF 1D2D4-1D2DF
  1D2F4-1D2FF 1D357-1D35F 1D379-1D7CD 1DA8C-1DA9A 1DAA0 1DAB0-1DEFF 1DF1F-1DF24 1DF2B-1DFFF
  1E007 1E019-1E01A 1E022 1E025 1E02B-1E08E 1E090-1E0FF 1E12D-1E12F 1E13E-1E13F 1E14A-1E14D
  1E150-1E28F 1E2AF-1E2BF 1E2FA-1E2FE 1E300-1E4CF 1E4FA-1E5CF 1E5FB-1E5FE 1E600-1E6BF 1E6DF
  1E6F6-1E6FD 1E700-1E7DF 1E7E7 1E7EC 1E7EF 1E7FF 1E8C5-1E8C6 1E8D7-1E8FF 1E94C-1E94F
  1E95A-1E95D 1E960-1EC70 1ECB5-1ED00 1ED3E-1EEEF 1EEF2-1EFFF 1F02C-1F02F 1F094-1F09F
  1F0AF-1F0B0 1F0C0 1F0D0 1F0F6-1F100 1F1AE-1F1E5 1F203-1F25F 1F266-1F2FF 1F6D9-1F6DB
  1F6ED-1F6EF 1F6FD-1F6FF 1F7DA-1F7DF 1F7EC-1F7EF 1F7F1-1F7FF 1F80C-1F80F 1F848-1F84F
  1F85A-1F85F 1F888-1F88F 1F8AE-1F8AF 1F8BC-1F8BF 1F8C2-1F8CF 1F8D9-1F8FF 1FA58-1FA5F
  1FA6E-1FA6F 1FA7D-1FA7F 1FA8B-1FA8D 1FAC7 1FAC9-1FACC 1FADD-1FADE 1FAEB-1FAEE 1FAF9-1FAFF
  1FB93 1FBFB-1FFFF 2A6E0-2A6FF 2B81E-2B81F 2CEAE-2CEAF 2EBE1-2EBEF 2EE5E-2FFFF 3134B-3134F
  3347A-10FFFF"

def otherForm? (n : Nat) : Option (List Char) :=
  (Text.lastStart formRuns (·.start) n 0 formRuns.size).bind fun run =>
    if (n - run.start) % run.step = 0 then run.forms[(n - run.start) / run.step]? else none

/-- The form of a character; `none` if it cannot be in a domain name. What is forbidden of ASCII is
another matter. -/
def form? (c : Char) : Option (List Char) :=
  let n := c.toNat
  if n < 0x80 then some [c.toLower]
  else
    match otherForm? n with
    | some form => some form
    | none => if ignored.has c then some [] else if excluded.has c then none else some [c]

def formOf? (text : List Char) : Option (List Char) :=
  (text.mapM form?).map fun forms => Text.compose forms.flatten

end RLanguageHost.Uri.Domain
