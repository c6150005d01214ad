namespace DiceBot.Web.Domain

def letterRuns0000 : List (Nat × String) :=
  [(0x41, "abcdefghijklmnopqrstuvwxyz"), (0xA0, " "), (0xAA, "a"), (0xB2, "23"), (0xB5, "μ"),
    (0xB9, "1o"), (0xC0, "àáâãäåæçèéêëìíîïðñòóôõö"), (0xD8, "øùúûüýþ"), (0x100, "ā"),
    (0x102, "ă"), (0x104, "ą"), (0x106, "ć"), (0x108, "ĉ"), (0x10A, "ċ"), (0x10C, "č"),
    (0x10E, "ď"), (0x110, "đ"), (0x112, "ē"), (0x114, "ĕ"), (0x116, "ė"), (0x118, "ę"),
    (0x11A, "ě"), (0x11C, "ĝ"), (0x11E, "ğ"), (0x120, "ġ"), (0x122, "ģ"), (0x124, "ĥ"),
    (0x126, "ħ"), (0x128, "ĩ"), (0x12A, "ī"), (0x12C, "ĭ"), (0x12E, "į"), (0x134, "ĵ"),
    (0x136, "ķ"), (0x139, "ĺ"), (0x13B, "ļ"), (0x13D, "ľ"), (0x141, "ł"), (0x143, "ń"),
    (0x145, "ņ"), (0x147, "ň"), (0x14A, "ŋ"), (0x14C, "ō"), (0x14E, "ŏ"), (0x150, "ő"),
    (0x152, "œ"), (0x154, "ŕ"), (0x156, "ŗ"), (0x158, "ř"), (0x15A, "ś"), (0x15C, "ŝ"),
    (0x15E, "ş"), (0x160, "š"), (0x162, "ţ"), (0x164, "ť"), (0x166, "ŧ"), (0x168, "ũ"),
    (0x16A, "ū"), (0x16C, "ŭ"), (0x16E, "ů"), (0x170, "ű"), (0x172, "ų"), (0x174, "ŵ"),
    (0x176, "ŷ"), (0x178, "ÿź"), (0x17B, "ż"), (0x17D, "ž"), (0x17F, "s"), (0x181, "ɓƃ"),
    (0x184, "ƅ"), (0x186, "ɔƈ"), (0x189, "ɖɗƌ"), (0x18E, "ǝəɛƒ"), (0x193, "ɠɣ"), (0x196, "ɩɨƙ"),
    (0x19C, "ɯɲ"), (0x19F, "ɵơ"), (0x1A2, "ƣ"), (0x1A4, "ƥ"), (0x1A6, "ʀƨ"), (0x1A9, "ʃ"),
    (0x1AC, "ƭ"), (0x1AE, "ʈư"), (0x1B1, "ʊʋƴ"), (0x1B5, "ƶ"), (0x1B7, "ʒƹ"), (0x1BC, "ƽ"),
    (0x1CD, "ǎ"), (0x1CF, "ǐ"), (0x1D1, "ǒ"), (0x1D3, "ǔ"), (0x1D5, "ǖ"), (0x1D7, "ǘ"),
    (0x1D9, "ǚ"), (0x1DB, "ǜ"), (0x1DE, "ǟ"), (0x1E0, "ǡ"), (0x1E2, "ǣ"), (0x1E4, "ǥ"),
    (0x1E6, "ǧ"), (0x1E8, "ǩ"), (0x1EA, "ǫ")]

def letterRuns01EC : List (Nat × String) :=
  [(0x1EC, "ǭ"), (0x1EE, "ǯ"), (0x1F4, "ǵ"), (0x1F6, "ƕƿǹ"), (0x1FA, "ǻ"), (0x1FC, "ǽ"),
    (0x1FE, "ǿ"), (0x200, "ȁ"), (0x202, "ȃ"), (0x204, "ȅ"), (0x206, "ȇ"), (0x208, "ȉ"),
    (0x20A, "ȋ"), (0x20C, "ȍ"), (0x20E, "ȏ"), (0x210, "ȑ"), (0x212, "ȓ"), (0x214, "ȕ"),
    (0x216, "ȗ"), (0x218, "ș"), (0x21A, "ț"), (0x21C, "ȝ"), (0x21E, "ȟ"), (0x220, "ƞ"),
    (0x222, "ȣ"), (0x224, "ȥ"), (0x226, "ȧ"), (0x228, "ȩ"), (0x22A, "ȫ"), (0x22C, "ȭ"),
    (0x22E, "ȯ"), (0x230, "ȱ"), (0x232, "ȳ"), (0x23A, "ⱥȼ"), (0x23D, "ƚⱦ"), (0x241, "ɂ"),
    (0x243, "ƀʉʌɇ"), (0x248, "ɉ"), (0x24A, "ɋ"), (0x24C, "ɍ"), (0x24E, "ɏ"),
    (0x2B0, "hɦjrɹɻʁwy"), (0x2E0, "ɣlsxʕ"), (0x340, "\u0300\u0301"), (0x343, "\u0313"),
    (0x345, "ι"), (0x370, "ͱ"), (0x372, "ͳ"), (0x374, "ʹ"), (0x376, "ͷ"), (0x37E, ";ϳ"),
    (0x386, "ά·έήί"), (0x38C, "ό"), (0x38E, "ύώ"), (0x391, "αβγδεζηθικλμνξοπρ"),
    (0x3A3, "στυφχψωϊϋ"), (0x3CF, "ϗβθυύϋφπ"), (0x3D8, "ϙ"), (0x3DA, "ϛ"), (0x3DC, "ϝ"),
    (0x3DE, "ϟ"), (0x3E0, "ϡ"), (0x3E2, "ϣ"), (0x3E4, "ϥ"), (0x3E6, "ϧ"), (0x3E8, "ϩ"),
    (0x3EA, "ϫ"), (0x3EC, "ϭ"), (0x3EE, "ϯ"), (0x3F0, "κρσ"), (0x3F4, "θε"), (0x3F7, "ϸ"),
    (0x3F9, "σϻ"), (0x3FD, "ͻͼͽѐёђѓєѕіїјљњћќѝўџабвгдежзийклмнопрстуфхцчшщъыьэюя"), (0x460, "ѡ"),
    (0x462, "ѣ"), (0x464, "ѥ"), (0x466, "ѧ"), (0x468, "ѩ"), (0x46A, "ѫ"), (0x46C, "ѭ"),
    (0x46E, "ѯ"), (0x470, "ѱ"), (0x472, "ѳ"), (0x474, "ѵ"), (0x476, "ѷ"), (0x478, "ѹ"),
    (0x47A, "ѻ"), (0x47C, "ѽ"), (0x47E, "ѿ"), (0x480, "ҁ"), (0x48A, "ҋ"), (0x48C, "ҍ"),
    (0x48E, "ҏ"), (0x490, "ґ"), (0x492, "ғ"), (0x494, "ҕ"), (0x496, "җ"), (0x498, "ҙ"),
    (0x49A, "қ"), (0x49C, "ҝ"), (0x49E, "ҟ")]

def letterRuns04A0 : List (Nat × String) :=
  [(0x4A0, "ҡ"), (0x4A2, "ң"), (0x4A4, "ҥ"), (0x4A6, "ҧ"), (0x4A8, "ҩ"), (0x4AA, "ҫ"),
    (0x4AC, "ҭ"), (0x4AE, "ү"), (0x4B0, "ұ"), (0x4B2, "ҳ"), (0x4B4, "ҵ"), (0x4B6, "ҷ"),
    (0x4B8, "ҹ"), (0x4BA, "һ"), (0x4BC, "ҽ"), (0x4BE, "ҿ"), (0x4C0, "ӏӂ"), (0x4C3, "ӄ"),
    (0x4C5, "ӆ"), (0x4C7, "ӈ"), (0x4C9, "ӊ"), (0x4CB, "ӌ"), (0x4CD, "ӎ"), (0x4D0, "ӑ"),
    (0x4D2, "ӓ"), (0x4D4, "ӕ"), (0x4D6, "ӗ"), (0x4D8, "ә"), (0x4DA, "ӛ"), (0x4DC, "ӝ"),
    (0x4DE, "ӟ"), (0x4E0, "ӡ"), (0x4E2, "ӣ"), (0x4E4, "ӥ"), (0x4E6, "ӧ"), (0x4E8, "ө"),
    (0x4EA, "ӫ"), (0x4EC, "ӭ"), (0x4EE, "ӯ"), (0x4F0, "ӱ"), (0x4F2, "ӳ"), (0x4F4, "ӵ"),
    (0x4F6, "ӷ"), (0x4F8, "ӹ"), (0x4FA, "ӻ"), (0x4FC, "ӽ"), (0x4FE, "ӿ"), (0x500, "ԁ"),
    (0x502, "ԃ"), (0x504, "ԅ"), (0x506, "ԇ"), (0x508, "ԉ"), (0x50A, "ԋ"), (0x50C, "ԍ"),
    (0x50E, "ԏ"), (0x510, "ԑ"), (0x512, "ԓ"), (0x514, "ԕ"), (0x516, "ԗ"), (0x518, "ԙ"),
    (0x51A, "ԛ"), (0x51C, "ԝ"), (0x51E, "ԟ"), (0x520, "ԡ"), (0x522, "ԣ"), (0x524, "ԥ"),
    (0x526, "ԧ"), (0x528, "ԩ"), (0x52A, "ԫ"), (0x52C, "ԭ"), (0x52E, "ԯ"),
    (0x531, "աբգդեզէըթժիլխծկհձղճմյնշոչպջռսվտրցւփքօֆ"), (0xF0C, "་"),
    (0x10A0, "ⴀⴁⴂⴃⴄⴅⴆⴇⴈⴉⴊⴋⴌⴍⴎⴏⴐⴑⴒⴓⴔⴕⴖⴗⴘⴙⴚⴛⴜⴝⴞⴟⴠⴡⴢⴣⴤⴥ"), (0x10C7, "ⴧ"), (0x10CD, "ⴭ"),
    (0x10FC, "ნ"), (0x13F8, "ᏰᏱᏲᏳᏴᏵ"), (0x1C80, "вдосттъѣꙋᲊ"),
    (0x1C90, "აბგდევზთიკლმნოპჟრსტუფქღყშჩცძწჭხჯჰჱჲჳჴჵჶჷჸჹჺ"), (0x1CBD, "ჽჾჿ"), (0x1D2C, "aæb"),
    (0x1D30, "deǝghijklmn"), (0x1D3C, "oȣprtuwaɐɑᴂbdeəɛɜg"),
    (0x1D4F, "kmŋoɔᴖᴗptuᴝɯvᴥβγδφχiruvβγρφχ"), (0x1D78, "н"),
    (0x1D9B, "ɒcɕðɜfɟɡɥɨɩɪᵻʝɭᶅʟɱɰɲɳɴɵɸʂʃƫʉʊᴜʋʌzʐʑʒθ"), (0x1E00, "ḁ"), (0x1E02, "ḃ"),
    (0x1E04, "ḅ"), (0x1E06, "ḇ"), (0x1E08, "ḉ"), (0x1E0A, "ḋ"), (0x1E0C, "ḍ"), (0x1E0E, "ḏ"),
    (0x1E10, "ḑ"), (0x1E12, "ḓ"), (0x1E14, "ḕ"), (0x1E16, "ḗ"), (0x1E18, "ḙ"), (0x1E1A, "ḛ"),
    (0x1E1C, "ḝ")]

def letterRuns1E1E : List (Nat × String) :=
  [(0x1E1E, "ḟ"), (0x1E20, "ḡ"), (0x1E22, "ḣ"), (0x1E24, "ḥ"), (0x1E26, "ḧ"), (0x1E28, "ḩ"),
    (0x1E2A, "ḫ"), (0x1E2C, "ḭ"), (0x1E2E, "ḯ"), (0x1E30, "ḱ"), (0x1E32, "ḳ"), (0x1E34, "ḵ"),
    (0x1E36, "ḷ"), (0x1E38, "ḹ"), (0x1E3A, "ḻ"), (0x1E3C, "ḽ"), (0x1E3E, "ḿ"), (0x1E40, "ṁ"),
    (0x1E42, "ṃ"), (0x1E44, "ṅ"), (0x1E46, "ṇ"), (0x1E48, "ṉ"), (0x1E4A, "ṋ"), (0x1E4C, "ṍ"),
    (0x1E4E, "ṏ"), (0x1E50, "ṑ"), (0x1E52, "ṓ"), (0x1E54, "ṕ"), (0x1E56, "ṗ"), (0x1E58, "ṙ"),
    (0x1E5A, "ṛ"), (0x1E5C, "ṝ"), (0x1E5E, "ṟ"), (0x1E60, "ṡ"), (0x1E62, "ṣ"), (0x1E64, "ṥ"),
    (0x1E66, "ṧ"), (0x1E68, "ṩ"), (0x1E6A, "ṫ"), (0x1E6C, "ṭ"), (0x1E6E, "ṯ"), (0x1E70, "ṱ"),
    (0x1E72, "ṳ"), (0x1E74, "ṵ"), (0x1E76, "ṷ"), (0x1E78, "ṹ"), (0x1E7A, "ṻ"), (0x1E7C, "ṽ"),
    (0x1E7E, "ṿ"), (0x1E80, "ẁ"), (0x1E82, "ẃ"), (0x1E84, "ẅ"), (0x1E86, "ẇ"), (0x1E88, "ẉ"),
    (0x1E8A, "ẋ"), (0x1E8C, "ẍ"), (0x1E8E, "ẏ"), (0x1E90, "ẑ"), (0x1E92, "ẓ"), (0x1E94, "ẕ"),
    (0x1E9B, "ṡ"), (0x1E9E, "ß"), (0x1EA0, "ạ"), (0x1EA2, "ả"), (0x1EA4, "ấ"), (0x1EA6, "ầ"),
    (0x1EA8, "ẩ"), (0x1EAA, "ẫ"), (0x1EAC, "ậ"), (0x1EAE, "ắ"), (0x1EB0, "ằ"), (0x1EB2, "ẳ"),
    (0x1EB4, "ẵ"), (0x1EB6, "ặ"), (0x1EB8, "ẹ"), (0x1EBA, "ẻ"), (0x1EBC, "ẽ"), (0x1EBE, "ế"),
    (0x1EC0, "ề"), (0x1EC2, "ể"), (0x1EC4, "ễ"), (0x1EC6, "ệ"), (0x1EC8, "ỉ"), (0x1ECA, "ị"),
    (0x1ECC, "ọ"), (0x1ECE, "ỏ"), (0x1ED0, "ố"), (0x1ED2, "ồ"), (0x1ED4, "ổ"), (0x1ED6, "ỗ"),
    (0x1ED8, "ộ"), (0x1EDA, "ớ"), (0x1EDC, "ờ"), (0x1EDE, "ở"), (0x1EE0, "ỡ"), (0x1EE2, "ợ"),
    (0x1EE4, "ụ"), (0x1EE6, "ủ"), (0x1EE8, "ứ"), (0x1EEA, "ừ"), (0x1EEC, "ử"), (0x1EEE, "ữ")]

def letterRuns1EF0 : List (Nat × String) :=
  [(0x1EF0, "ự"), (0x1EF2, "ỳ"), (0x1EF4, "ỵ"), (0x1EF6, "ỷ"), (0x1EF8, "ỹ"), (0x1EFA, "ỻ"),
    (0x1EFC, "ỽ"), (0x1EFE, "ỿ"), (0x1F08, "ἀἁἂἃἄἅἆἇ"), (0x1F18, "ἐἑἒἓἔἕ"), (0x1F28, "ἠἡἢἣἤἥἦἧ"),
    (0x1F38, "ἰἱἲἳἴἵἶἷ"), (0x1F48, "ὀὁὂὃὄὅ"), (0x1F59, "ὑ"), (0x1F5B, "ὓ"), (0x1F5D, "ὕ"),
    (0x1F5F, "ὗ"), (0x1F68, "ὠὡὢὣὤὥὦὧ"), (0x1F71, "ά"), (0x1F73, "έ"), (0x1F75, "ή"),
    (0x1F77, "ί"), (0x1F79, "ό"), (0x1F7B, "ύ"), (0x1F7D, "ώ"), (0x1FB8, "ᾰᾱὰά"), (0x1FBE, "ι"),
    (0x1FC8, "ὲέὴή"), (0x1FD3, "ΐ"), (0x1FD8, "ῐῑὶί"), (0x1FE3, "ΰ"), (0x1FE8, "ῠῡὺύῥ"),
    (0x1FEF, "\x60"), (0x1FF8, "ὸόὼώ"), (0x2000, "           "), (0x2011, "‐"), (0x202F, " "),
    (0x205F, " "), (0x2070, "0i"), (0x2074, "456789+−=()n0123456789+−=()"),
    (0x2090, "aeoxəhklmnpst"), (0x2102, "c"), (0x2107, "ɛ"), (0x210A, "ghhhhħiill"),
    (0x2115, "n"), (0x2119, "pqrrr"), (0x2124, "z"), (0x2126, "ω"), (0x2128, "z"),
    (0x212A, "kåbc"), (0x212F, "eefⅎmoאבגדi"), (0x213C, "πγγπ∑"), (0x2145, "ddeij"),
    (0x2160, "i"), (0x2164, "v"), (0x2169, "x"), (0x216C, "lcdmi"), (0x2174, "v"), (0x2179, "x"),
    (0x217C, "lcdm"), (0x2183, "ↄ"), (0x2329, "〈〉"), (0x2460, "123456789"),
    (0x24B6, "abcdefghijklmnopqrstuvwxyzabcdefghijklmnopqrstuvwxyz0"),
    (0x2C00, "ⰰⰱⰲⰳⰴⰵⰶⰷⰸⰹⰺⰻⰼⰽⰾⰿⱀⱁⱂⱃⱄⱅⱆⱇⱈⱉⱊⱋⱌⱍⱎⱏⱐⱑⱒⱓⱔⱕⱖⱗⱘⱙⱚⱛⱜⱝⱞⱟ"), (0x2C60, "ⱡ"), (0x2C62, "ɫᵽɽ"),
    (0x2C67, "ⱨ"), (0x2C69, "ⱪ"), (0x2C6B, "ⱬ"), (0x2C6D, "ɑɱɐɒ"), (0x2C72, "ⱳ"), (0x2C75, "ⱶ"),
    (0x2C7C, "jvȿɀⲁ"), (0x2C82, "ⲃ"), (0x2C84, "ⲅ"), (0x2C86, "ⲇ"), (0x2C88, "ⲉ"), (0x2C8A, "ⲋ"),
    (0x2C8C, "ⲍ"), (0x2C8E, "ⲏ"), (0x2C90, "ⲑ"), (0x2C92, "ⲓ"), (0x2C94, "ⲕ"), (0x2C96, "ⲗ"),
    (0x2C98, "ⲙ"), (0x2C9A, "ⲛ"), (0x2C9C, "ⲝ"), (0x2C9E, "ⲟ"), (0x2CA0, "ⲡ"), (0x2CA2, "ⲣ"),
    (0x2CA4, "ⲥ"), (0x2CA6, "ⲧ"), (0x2CA8, "ⲩ"), (0x2CAA, "ⲫ"), (0x2CAC, "ⲭ"), (0x2CAE, "ⲯ"),
    (0x2CB0, "ⲱ"), (0x2CB2, "ⲳ"), (0x2CB4, "ⲵ"), (0x2CB6, "ⲷ"), (0x2CB8, "ⲹ")]

def letterRuns2CBA : List (Nat × String) :=
  [(0x2CBA, "ⲻ"), (0x2CBC, "ⲽ"), (0x2CBE, "ⲿ"), (0x2CC0, "ⳁ"), (0x2CC2, "ⳃ"), (0x2CC4, "ⳅ"),
    (0x2CC6, "ⳇ"), (0x2CC8, "ⳉ"), (0x2CCA, "ⳋ"), (0x2CCC, "ⳍ"), (0x2CCE, "ⳏ"), (0x2CD0, "ⳑ"),
    (0x2CD2, "ⳓ"), (0x2CD4, "ⳕ"), (0x2CD6, "ⳗ"), (0x2CD8, "ⳙ"), (0x2CDA, "ⳛ"), (0x2CDC, "ⳝ"),
    (0x2CDE, "ⳟ"), (0x2CE0, "ⳡ"), (0x2CE2, "ⳣ"), (0x2CEB, "ⳬ"), (0x2CED, "ⳮ"), (0x2CF2, "ⳳ"),
    (0x2D6F, "ⵡ"), (0x2E9F, "母"), (0x2EF3, "龟"),
    (0x2F00, "一丨丶丿乙亅二亠人儿入八冂冖冫几凵刀力勹匕匚匸十卜卩厂厶又口囗土士夂夊夕大女子宀寸小尢尸屮山巛工己巾干幺广廴廾弋弓彐彡彳心戈戶手"),
    (0x2F40, "支攴文斗斤方无日曰月木欠止歹殳毋比毛氏气水火爪父爻爿片牙牛犬玄玉瓜瓦甘生用田疋疒癶白皮皿目矛矢石示禸禾穴立竹米糸缶网羊羽老而耒耳"),
    (0x2F80, "聿肉臣自至臼舌舛舟艮色艸虍虫血行衣襾見角言谷豆豕豸貝赤走足身車辛辰辵邑酉釆里金長門阜隶隹雨靑非面革韋韭音頁風飛食首香馬骨高髟鬥鬯"),
    (0x2FC0, "鬲鬼魚鳥鹵鹿麥麻黃黍黑黹黽鼎鼓鼠鼻齊齒龍龜龠"), (0x3000, " "), (0x3002, "."), (0x3036, "〒"),
    (0x3038, "十卄卅"), (0x3131, "ᄀᄁᆪᄂᆬᆭᄃᄄᄅᆰᆱᆲᆳᆴᆵᄚᄆᄇᄈᄡᄉᄊᄋᄌᄍᄎᄏᄐᄑ하ᅢᅣᅤᅥᅦᅧᅨᅩᅪᅫᅬᅭᅮᅯᅰᅱᅲᅳᅴᅵ"),
    (0x3165, "ᄔᄕᇇᇈᇌᇎᇓᇗᇙᄜᇝᇟᄝᄞᄠᄢᄣᄧᄩᄫᄬᄭᄮᄯᄲᄶᅀᅇᅌᇱᇲᅗᅘᅙᆄᆅᆈᆑᆒᆔᆞᆡ"), (0x3192, "一二三四上中下甲乙丙丁天地人"),
    (0x3244, "問幼文箏"), (0x3260, "ᄀᄂᄃᄅᄆᄇᄉᄋᄌᄎᄏᄐᄑᄒ가나다라마바사아자차카타파하"), (0x327E, "우"),
    (0x3280, "一二三四五六七八九十月火水木金土日株有社名特財祝労秘男女適優印注項休写正上中下左右医宗学監企資協夜"),
    (0x32D0, "アイウエオカキクケコサシスセソタチツテトナニヌネノハヒフヘホマミムメモヤユヨラリルレロワヰヱヲ"), (0xA640, "ꙁ"), (0xA642, "ꙃ"),
    (0xA644, "ꙅ"), (0xA646, "ꙇ"), (0xA648, "ꙉ"), (0xA64A, "ꙋ"), (0xA64C, "ꙍ"), (0xA64E, "ꙏ"),
    (0xA650, "ꙑ"), (0xA652, "ꙓ"), (0xA654, "ꙕ"), (0xA656, "ꙗ"), (0xA658, "ꙙ"), (0xA65A, "ꙛ"),
    (0xA65C, "ꙝ"), (0xA65E, "ꙟ"), (0xA660, "ꙡ"), (0xA662, "ꙣ"), (0xA664, "ꙥ"), (0xA666, "ꙧ"),
    (0xA668, "ꙩ"), (0xA66A, "ꙫ"), (0xA66C, "ꙭ"), (0xA680, "ꚁ"), (0xA682, "ꚃ"), (0xA684, "ꚅ"),
    (0xA686, "ꚇ"), (0xA688, "ꚉ"), (0xA68A, "ꚋ"), (0xA68C, "ꚍ"), (0xA68E, "ꚏ"), (0xA690, "ꚑ"),
    (0xA692, "ꚓ"), (0xA694, "ꚕ"), (0xA696, "ꚗ"), (0xA698, "ꚙ"), (0xA69A, "ꚛ"), (0xA69C, "ъь"),
    (0xA722, "ꜣ"), (0xA724, "ꜥ"), (0xA726, "ꜧ"), (0xA728, "ꜩ"), (0xA72A, "ꜫ"), (0xA72C, "ꜭ"),
    (0xA72E, "ꜯ"), (0xA732, "ꜳ"), (0xA734, "ꜵ"), (0xA736, "ꜷ"), (0xA738, "ꜹ"), (0xA73A, "ꜻ"),
    (0xA73C, "ꜽ"), (0xA73E, "ꜿ"), (0xA740, "ꝁ"), (0xA742, "ꝃ"), (0xA744, "ꝅ"), (0xA746, "ꝇ"),
    (0xA748, "ꝉ"), (0xA74A, "ꝋ"), (0xA74C, "ꝍ")]

def letterRunsA74E : List (Nat × String) :=
  [(0xA74E, "ꝏ"), (0xA750, "ꝑ"), (0xA752, "ꝓ"), (0xA754, "ꝕ"), (0xA756, "ꝗ"), (0xA758, "ꝙ"),
    (0xA75A, "ꝛ"), (0xA75C, "ꝝ"), (0xA75E, "ꝟ"), (0xA760, "ꝡ"), (0xA762, "ꝣ"), (0xA764, "ꝥ"),
    (0xA766, "ꝧ"), (0xA768, "ꝩ"), (0xA76A, "ꝫ"), (0xA76C, "ꝭ"), (0xA76E, "ꝯ"), (0xA770, "ꝯ"),
    (0xA779, "ꝺ"), (0xA77B, "ꝼ"), (0xA77D, "ᵹꝿ"), (0xA780, "ꞁ"), (0xA782, "ꞃ"), (0xA784, "ꞅ"),
    (0xA786, "ꞇ"), (0xA78B, "ꞌ"), (0xA78D, "ɥ"), (0xA790, "ꞑ"), (0xA792, "ꞓ"), (0xA796, "ꞗ"),
    (0xA798, "ꞙ"), (0xA79A, "ꞛ"), (0xA79C, "ꞝ"), (0xA79E, "ꞟ"), (0xA7A0, "ꞡ"), (0xA7A2, "ꞣ"),
    (0xA7A4, "ꞥ"), (0xA7A6, "ꞧ"), (0xA7A8, "ꞩ"), (0xA7AA, "ɦɜɡɬɪ"), (0xA7B0, "ʞʇʝꭓꞵ"),
    (0xA7B6, "ꞷ"), (0xA7B8, "ꞹ"), (0xA7BA, "ꞻ"), (0xA7BC, "ꞽ"), (0xA7BE, "ꞿ"), (0xA7C0, "ꟁ"),
    (0xA7C2, "ꟃ"), (0xA7C4, "ꞔʂᶎꟈ"), (0xA7C9, "ꟊ"), (0xA7CB, "ɤꟍ"), (0xA7CE, "꟏"), (0xA7D0, "ꟑ"),
    (0xA7D2, "ꟓ"), (0xA7D4, "ꟕ"), (0xA7D6, "ꟗ"), (0xA7D8, "ꟙ"), (0xA7DA, "ꟛ"), (0xA7DC, "ƛ"),
    (0xA7F1, "scfqꟶ"), (0xA7F8, "ħœ"), (0xAB5C, "ꜧꬷɫꭒ"), (0xAB69, "ʍ"),
    (0xAB70, "ᎠᎡᎢᎣᎤᎥᎦᎧᎨᎩᎪᎫᎬᎭᎮᎯᎰᎱᎲᎳᎴᎵᎶᎷᎸᎹᎺᎻᎼᎽᎾᎿᏀᏁᏂᏃᏄᏅᏆᏇᏈᏉᏊᏋᏌᏍᏎᏏᏐᏑᏒᏓᏔᏕᏖᏗᏘᏙᏚᏛᏜᏝᏞᏟ"),
    (0xABB0, "ᏠᏡᏢᏣᏤᏥᏦᏧᏨᏩᏪᏫᏬᏭᏮᏯ"),
    (0xF900, "豈更車賈滑串句龜龜契金喇奈懶癩羅蘿螺裸邏樂洛烙珞落酪駱亂卵欄爛蘭鸞嵐濫藍襤拉臘蠟廊朗浪狼郎來冷勞擄櫓爐盧老蘆虜路露魯鷺碌祿綠菉錄"),
    (0xF940, "鹿論壟弄籠聾牢磊賂雷壘屢樓淚漏累縷陋勒肋凜凌稜綾菱陵讀拏樂諾丹寧怒率異北磻便復不泌數索參塞省葉說殺辰沈拾若掠略亮兩凉梁糧良諒量勵"),
    (0xF980, "呂女廬旅濾礪閭驪麗黎力曆歷轢年憐戀撚漣煉璉秊練聯輦蓮連鍊列劣咽烈裂說廉念捻殮簾獵令囹寧嶺怜玲瑩羚聆鈴零靈領例禮醴隸惡了僚寮尿料樂"),
    (0xF9C0, "燎療蓼遼龍暈阮劉杻柳流溜琉留硫紐類六戮陸倫崙淪輪律慄栗率隆利吏履易李梨泥理痢罹裏裡里離匿溺吝燐璘藺隣鱗麟林淋臨立笠粒狀炙識什茶刺"),
    (0xFA00, "切度拓糖宅洞暴輻行降見廓兀嗀"), (0xFA10, "塚"), (0xFA12, "晴"), (0xFA15, "凞猪益礼神祥福靖精羽"),
    (0xFA20, "蘒"), (0xFA22, "諸"), (0xFA25, "逸都"),
    (0xFA2A, "飯飼館鶴郞隷侮僧免勉勤卑喝嘆器塀墨層屮悔慨憎懲敏既暑梅海渚漢煮爫琢碑社祉祈祐祖祝禍禎穀突節練縉繁署者臭艹艹著褐視謁謹賓贈辶逸難響"),
    (0xFA6A, "頻恵𤋮舘"),
    (0xFA70, "並况全侀充冀勇勺喝啕喙嗢塚墳奄奔婢嬨廒廙彩徭惘慎愈憎慠懲戴揄搜摒敖晴朗望杖歹殺流滛滋漢瀞煮瞧爵犯猪瑱甆画瘝瘟益盛直睊着磌窱節类絛"),
    (0xFAB0, "練缾者荒華蝹襁覆視調諸請謁諾諭謹變贈輸遲醙鉶陼難靖韛響頋頻鬒龜𢡊𢡄𣏕㮝䀘䀹𥉉𥳐𧻓齃龎"), (0xFB20, "עאדהכלםרת+"),
    (0xFB50, "ٱٱٻٻٻٻپپپپڀڀڀڀٺٺٺٺٿٿٿٿٹٹٹٹڤڤڤڤڦڦڦڦڄڄڄڄڃڃڃڃچچچچڇڇڇڇڍڍڌڌڎڎڈڈژژڑڑکک"),
    (0xFB90, "ککگگگگڳڳڳڳڱڱڱڱںںڻڻڻڻۀۀہہہہھھھھےےۓۓ"), (0xFBD3, "ڭڭڭڭۇۇۆۆۈۈ"),
    (0xFBDE, "ۋۋۅۅۉۉېېېېىى"), (0xFBFC, "یییی"), (0xFE10, ",、"), (0xFE13, ":;!?〖〗"),
    (0xFE31, "—–__()\x7b\x7d〔〕【】《》〈〉「」『』"), (0xFE47, "[]"), (0xFE4D, "___,、"),
    (0xFE54, ";:?!—()\x7b\x7d〔〕#&*+-<>="), (0xFE68, "\\$%@"),
    (0xFE80, "ءآآأأؤؤإإئئئئااببببةةتتتتثثثثججججححححخخخخددذذررززسسسسششششصصصصضضض"),
    (0xFEC0, "ضططططظظظظععععغغغغففففققققككككللللممممننننههههووىىيييي"),
    (0xFF01, "!\"#$%&'()*+,-./0123456789:;<=>?@abcdefghijklmnopqrstuvwxyz[\\]^"),
    (0xFF3F, "_\x60abcdefghijklmnopqrstuvwxyz\x7b|\x7d~⦅⦆.「」、・ヲァィゥェォャュョッーアイウエオ"),
    (0xFF76, "カキクケコサシスセソタチツテトナニヌネノハヒフヘホマミムメモヤユヨラリルレロワン\u3099\u309A"),
    (0xFFA1, "ᄀᄁᆪᄂᆬᆭᄃᄄᄅᆰᆱᆲᆳᆴᆵᄚᄆᄇᄈᄡᄉᄊᄋᄌᄍᄎᄏᄐᄑᄒ"), (0xFFC2, "ᅡᅢᅣᅤᅥᅦ"), (0xFFCA, "ᅧᅨᅩᅪᅫᅬ"),
    (0xFFD2, "ᅭᅮᅯᅰᅱᅲ")]

def letterRunsFFDA : List (Nat × String) :=
  [(0xFFDA, "ᅳᅴᅵ"), (0xFFE0, "¢£¬"), (0xFFE4, "¦¥₩"), (0xFFE8, "│←↑→↓■○"),
    (0x10400, "𐐨𐐩𐐪𐐫𐐬𐐭𐐮𐐯𐐰𐐱𐐲𐐳𐐴𐐵𐐶𐐷𐐸𐐹𐐺𐐻𐐼𐐽𐐾𐐿𐑀𐑁𐑂𐑃𐑄𐑅𐑆𐑇𐑈𐑉𐑊𐑋𐑌𐑍𐑎𐑏"),
    (0x104B0, "𐓘𐓙𐓚𐓛𐓜𐓝𐓞𐓟𐓠𐓡𐓢𐓣𐓤𐓥𐓦𐓧𐓨𐓩𐓪𐓫𐓬𐓭𐓮𐓯𐓰𐓱𐓲𐓳𐓴𐓵𐓶𐓷𐓸𐓹𐓺𐓻"), (0x10570, "𐖗𐖘𐖙𐖚𐖛𐖜𐖝𐖞𐖟𐖠𐖡"),
    (0x1057C, "𐖣𐖤𐖥𐖦𐖧𐖨𐖩𐖪𐖫𐖬𐖭𐖮𐖯𐖰𐖱"), (0x1058C, "𐖳𐖴𐖵𐖶𐖷𐖸𐖹"), (0x10594, "𐖻𐖼"), (0x10781, "ːˑæʙɓ"),
    (0x10787, "ʣꭦʥʤɖɗᶑɘɞʩɤɢɠʛħʜɧʄʪʫɬ𝼄ꞎɮ𝼅ʎ𝼆øɶɷqɺ𝼈ɽɾʀʨʦꭧʧʈⱱ"), (0x107B2, "ʏʡʢʘǀǁǂ𝼊𝼞"),
    (0x10C80, "𐳀𐳁𐳂𐳃𐳄𐳅𐳆𐳇𐳈𐳉𐳊𐳋𐳌𐳍𐳎𐳏𐳐𐳑𐳒𐳓𐳔𐳕𐳖𐳗𐳘𐳙𐳚𐳛𐳜𐳝𐳞𐳟𐳠𐳡𐳢𐳣𐳤𐳥𐳦𐳧𐳨𐳩𐳪𐳫𐳬𐳭𐳮𐳯𐳰𐳱𐳲"),
    (0x10D50, "𐵰𐵱𐵲𐵳𐵴𐵵𐵶𐵷𐵸𐵹𐵺𐵻𐵼𐵽𐵾𐵿𐶀𐶁𐶂𐶃𐶄𐶅"), (0x118A0, "𑣀𑣁𑣂𑣃𑣄𑣅𑣆𑣇𑣈𑣉𑣊𑣋𑣌𑣍𑣎𑣏𑣐𑣑𑣒𑣓𑣔𑣕𑣖𑣗𑣘𑣙𑣚𑣛𑣜𑣝𑣞𑣟"),
    (0x16E40, "𖹠𖹡𖹢𖹣𖹤𖹥𖹦𖹧𖹨𖹩𖹪𖹫𖹬𖹭𖹮𖹯𖹰𖹱𖹲𖹳𖹴𖹵𖹶𖹷𖹸𖹹𖹺𖹻𖹼𖹽𖹾𖹿"), (0x16EA0, "𖺻𖺼𖺽𖺾𖺿𖻀𖻁𖻂𖻃𖻄𖻅𖻆𖻇𖻈𖻉𖻊𖻋𖻌𖻍𖻎𖻏𖻐𖻑𖻒𖻓"),
    (0x1CCD6, "abcdefghijklmnopqrstuvwxyz0123456789"),
    (0x1D400, "abcdefghijklmnopqrstuvwxyzabcdefghijklmnopqrstuvwxyzabcdefghijkl"),
    (0x1D440, "mnopqrstuvwxyzabcdefg"),
    (0x1D456, "ijklmnopqrstuvwxyzabcdefghijklmnopqrstuvwxyzabcdefghijklmnopqrst"),
    (0x1D496, "uvwxyza"), (0x1D49E, "cd"), (0x1D4A2, "g"), (0x1D4A5, "jk"), (0x1D4A9, "nopq"),
    (0x1D4AE, "stuvwxyzabcd"), (0x1D4BB, "f"), (0x1D4BD, "hijklmn"),
    (0x1D4C5, "pqrstuvwxyzabcdefghijklmnopqrstuvwxyzabcdefghijklmnopqrstuvwxyza"),
    (0x1D505, "b"), (0x1D507, "defg"), (0x1D50D, "jklmnopq"), (0x1D516, "stuvwxy"),
    (0x1D51E, "abcdefghijklmnopqrstuvwxyzab"), (0x1D53B, "defg"), (0x1D540, "ijklm"),
    (0x1D546, "o"), (0x1D54A, "stuvwxy"),
    (0x1D552, "abcdefghijklmnopqrstuvwxyzabcdefghijklmnopqrstuvwxyzabcdefghijkl"),
    (0x1D592, "mnopqrstuvwxyzabcdefghijklmnopqrstuvwxyzabcdefghijklmnopqrstuvwx"),
    (0x1D5D2, "yzabcdefghijklmnopqrstuvwxyzabcdefghijklmnopqrstuvwxyzabcdefghij"),
    (0x1D612, "klmnopqrstuvwxyzabcdefghijklmnopqrstuvwxyzabcdefghijklmnopqrstuv"),
    (0x1D652, "wxyzabcdefghijklmnopqrstuvwxyzabcdefghijklmnopqrstuvwxyzabcdefgh"),
    (0x1D692, "ijklmnopqrstuvwxyzıȷ"),
    (0x1D6A8, "αβγδεζηθικλμνξοπρθστυφχψω∇αβγδεζηθικλμνξοπρσστυφχψω∂εθκφρπαβγδεζ"),
    (0x1D6E8, "ηθικλμνξοπρθστυφχψω∇αβγδεζηθικλμνξοπρσστυφχψω∂εθκφρπαβγδεζηθικλμ"),
    (0x1D728, "νξοπρθστυφχψω∇αβγδεζηθικλμνξοπρσστυφχψω∂εθκφρπαβγδεζηθικλμνξοπρθ"),
    (0x1D768, "στυφχψω∇αβγδεζηθικλμνξοπρσστυφχψω∂εθκφρπαβγδεζηθικλμνξοπρθστυφχψ"),
    (0x1D7A8, "ω∇αβγδεζηθικλμνξοπρσστυφχψω∂εθκφρπϝϝ"),
    (0x1D7CE, "01234567890123456789012345678901234567890123456789"),
    (0x1E030, "абвгдежзиклмопрстуфхцчшыэюꚉәіјөүӏабвгдежзиклопсуфхцчшъыґіѕџҫꙑұ"),
    (0x1E900, "𞤢𞤣𞤤𞤥𞤦𞤧𞤨𞤩𞤪𞤫𞤬𞤭𞤮𞤯𞤰𞤱𞤲𞤳𞤴𞤵𞤶𞤷𞤸𞤹𞤺𞤻𞤼𞤽𞤾𞤿𞥀𞥁𞥂𞥃"), (0x1EE00, "ابجد"),
    (0x1EE05, "وزحطيكلمنسعفصقرشتثخذضظغٮںڡٯ"), (0x1EE21, "بج"), (0x1EE24, "ه"), (0x1EE27, "ح"),
    (0x1EE29, "يكلمنسعفصق"), (0x1EE34, "شتثخ"), (0x1EE39, "ض"), (0x1EE3B, "غ"), (0x1EE42, "ج"),
    (0x1EE47, "ح"), (0x1EE49, "ي"), (0x1EE4B, "ل"), (0x1EE4D, "نسع"), (0x1EE51, "صق"),
    (0x1EE54, "ش"), (0x1EE57, "خ"), (0x1EE59, "ض"), (0x1EE5B, "غ"), (0x1EE5D, "ں"),
    (0x1EE5F, "ٯ"), (0x1EE61, "بج"), (0x1EE64, "ه"), (0x1EE67, "حطيك"), (0x1EE6C, "منسعفصق"),
    (0x1EE74, "شتثخ"), (0x1EE79, "ضظغٮ"), (0x1EE7E, "ڡ"), (0x1EE80, "ابجدهوزحطي"),
    (0x1EE8B, "لمنسعفصقرشتثخذضظغ"), (0x1EEA1, "بجد"), (0x1EEA5, "وزحطي"),
    (0x1EEAB, "لمنسعفصقرشتثخذضظغ"), (0x1F12B, "cr"), (0x1F130, "abcdefghijklmnopqrstuvwxyz"),
    (0x1F202, "サ"), (0x1F210, "手字双デ二多解天交映無料前後再新初終生販声吹演投捕一三遊左中右指走打禁空合満有月申割営配"), (0x1F250, "得可"),
    (0x1FBF0, "0123456789"),
    (0x2F800, "丽丸乁𠄢你侮侻倂偺備僧像㒞𠘺免兔兤具𠔜㒹內再𠕋冗冤仌冬况𩇟凵刃㓟刻剆割剷㔕勇勉勤勺包匆北卉卑博即卽卿卿卿𠨬灰及叟𠭣叫叱吆咞吸呈周"),
    (0x2F840, "咢哶唐啓啣善善喙喫喳嗂圖嘆圗噑噴切壮城埴堍型堲報墬𡓤売壷夆多夢奢𡚨𡛪姬娛娧姘婦㛮㛼嬈嬾嬾𡧈寃寘寧寳𡬘寿将当尢㞁屠屮峀岍𡷤嵃𡷦嵮嵫"),
    (0x2F880, "嵼巡巢㠯巽帨帽幩㡢𢆃㡼庰庳庶廊𪎒廾𢌱𢌱舁弢弢㣇𣊸𦇚形彫㣣徚忍志忹悁㤺㤜悔𢛔惇慈慌慎慌慺憎憲憤憯懞懲懶成戛扝抱拔捐𢬌挽拼捨掃揤𢯱搢"),
    (0x2F8C0, "揅掩㨮摩摾撝摷㩬敏敬𣀊旣書晉㬙暑㬈㫤冒冕最暜肭䏙朗望朡杞杓𣏃㭉柺枅桒梅𣑭梎栟椔㮝楂榣槪檨𣚣櫛㰘次𣢧歔㱎歲殟殺殻𣪍𡴋𣫺汎𣲼沿泍汧洖"),
    (0x2F900, "派海流浩浸涅𣴞洴港湮㴳滋滇𣻑淹潮𣽞𣾎濆瀹瀞瀛㶖灊災灷炭𠔥煅𤉣熜𤎫爨爵牐𤘈犀犕𤜵𤠔獺王㺬玥㺸㺸瑇瑜瑱璅瓊㼛甤𤰶甾𤲒異𢆟瘐𤾡𤾸𥁄㿼䀈"),
    (0x2F940, "直𥃳𥃲𥄙𥄳眞真真睊䀹瞋䁆䂖𥐝硎碌磌䃣𥘦祖𥚚𥛅福秫䄯穀穊穏𥥼𥪧𥪧竮䈂𥮫篆築䈧𥲀糒䊠糨糣紀𥾆絣䌁緇縂繅䌴𦈨𦉇䍙𦋙罺𦌾羕翺者𦓚𦔣聠𦖨聰"),
    (0x2F980, "𣍟䏕育脃䐋脾媵𦞧𦞵𣎓𣎜舁舄辞䑫芑芋芝劳花芳芽苦𦬼若茝荣莭茣莽菧著荓菊菌菜𦰶𦵫𦳕䔫蓱蓳蔖𧏊蕤𦼬䕝䕡𦾱𧃒䕫虐虜虧虩蚩蚈蜎蛢蝹蜨蝫螆䗗"),
    (0x2F9C0, "蟡蠁䗹衠衣𧙧裗裞䘵裺㒻𧢮𧥦䚾䛇誠諭變豕𧲨貫賁贛起𧼯𠠄跋趼跰𠣞軔輸𨗒𨗭邔郱鄑𨜮鄛鈸鋗鋘鉼鏹鐕𨯺開䦕閷𨵷䧦雃嶲霣𩅅𩈚䩮䩶韠𩐊䪲𩒖頋頋"),
    (0x2FA00, "頩𩖶飢䬳餩馧駂駾䯎𩬰鬒鱀鳽䳎䳭鵧𪃎䳸𪄅𪈎𪊑麻䵖黹黾鼅鼏鼖鼻𪘀")]

/-- Characters that stand for one other character, by runs: the first of a run, and what each in turn
stands for. -/
def letterRuns : List (Nat × String) :=
  letterRuns0000 ++ letterRuns01EC ++ letterRuns04A0 ++ letterRuns1E1E ++ letterRuns1EF0 ++
    letterRuns2CBA ++ letterRunsA74E ++ letterRunsFFDA

end DiceBot.Web.Domain
