namespace CachingProxy.SpellingTable

/-- What consecutive characters, of which the first is given, are spelled like, with blanks between;
nothing where a character has no spelling. -/
def words : List (Nat × String) := [
  (0xBC, "1\u20444 1\u20442 3\u20444"), (0x130, "i\u0307  ij ij"), (0x13F, "l· l·"), (0x149, "ʼn"),
  (0x1C4, "dž dž dž lj lj lj nj nj nj"), (0x1F1, "dz dz dz"), (0x344, "\u0308\u0301"),
  (0x587, "եւ"), (0x675, "\u0627\u0674 \u0648\u0674 \u06c7\u0674 \u064a\u0674"),
  (0x958, "क\u093c ख\u093c ग\u093c ज\u093c ड\u093c ढ\u093c फ\u093c य\u093c"),
  (0x9DC, "ড\u09bc ঢ\u09bc  য\u09bc"), (0xA33, "ਲ\u0a3c   ਸ\u0a3c"),
  (0xA59, "ਖ\u0a3c ਗ\u0a3c ਜ\u0a3c   ਫ\u0a3c"), (0xB5C, "ଡ\u0b3c ଢ\u0b3c"), (0xE33, "\u0e4dา"),
  (0xEB3, "\u0ecdາ"), (0xEDC, "ຫນ ຫມ"), (0xF43, "ག\u0fb7"),
  (0xF4D, "ཌ\u0fb7     ད\u0fb7     བ\u0fb7     ཛ\u0fb7"), (0xF69, "ཀ\u0fb5"),
  (0xF73, "\u0f71\u0f72  \u0f71\u0f74 \u0fb2\u0f80 \u0fb2\u0f71\u0f80 \u0fb3\u0f80"),
  (0xF79, "\u0fb3\u0f71\u0f80"), (0xF81, "\u0f71\u0f80"), (0xF93, "\u0f92\u0fb7"),
  (0xF9D, "\u0f9c\u0fb7     \u0fa1\u0fb7     \u0fa6\u0fb7     \u0fab\u0fb7"),
  (0xFB9, "\u0f90\u0fb5"), (0x1E9A, "aʾ"),
  (0x1F80, "ἀι ἁι ἂι ἃι ἄι ἅι ἆι ἇι ἀι ἁι ἂι ἃι ἄι ἅι ἆι ἇι ἠι ἡι ἢι ἣι ἤι ἥι ἦι ἧι"),
  (0x1F98, "ἠι ἡι ἢι ἣι ἤι ἥι ἦι ἧι ὠι ὡι ὢι ὣι ὤι ὥι ὦι ὧι ὠι ὡι ὢι ὣι ὤι ὥι ὦι ὧι  "),
  (0x1FB2, "ὰι αι άι   ᾶι     αι"), (0x1FC2, "ὴι ηι ήι   ῆι     ηι"),
  (0x1FF2, "ὼι ωι ώι   ῶι     ωι"), (0x2033, "′′ ′′′  ‵‵ ‵‵‵     !!"), (0x2057, "′′′′"),
  (0x20A8, "rs"), (0x2103, "°c"), (0x2109, "°f"), (0x2116, "no"), (0x2120, "sm tel tm"),
  (0x213B, "fax"),
  (0x2150, "1\u20447 1\u20449 1\u204410 1\u20443 2\u20443 1\u20445 2\u20445 3\u20445"),
  (0x2158, "4\u20445 1\u20446 5\u20446 1\u20448 3\u20448 5\u20448 7\u20448 1\u2044 "),
  (0x2161, "ii iii iv  vi vii viii ix  xi xii"), (0x2171, "ii iii iv  vi vii viii ix  xi xii"),
  (0x2189, "0\u20443"), (0x222C, "∫∫ ∫∫∫  ∮∮ ∮∮∮"),
  (0x2469, "10 11 12 13 14 15 16 17 18 19 20 (1) (2) (3) (4) (5) (6) (7) (8) (9) (10)"),
  (0x247E, "(11) (12) (13) (14) (15) (16) (17) (18) (19) (20)"),
  (0x249C, "(a) (b) (c) (d) (e) (f) (g) (h) (i) (j) (k) (l) (m) (n) (o) (p) (q) (r)"),
  (0x24AE, "(s) (t) (u) (v) (w) (x) (y) (z)"), (0x2A0C, "∫∫∫∫"), (0x2A75, "== ==="),
  (0x2ADC, "⫝\u0338"), (0x309F, "より"), (0x30FF, "コト"),
  (0x3200, "(ᄀ) (ᄂ) (ᄃ) (ᄅ) (ᄆ) (ᄇ) (ᄉ) (ᄋ) (ᄌ) (ᄎ) (ᄏ) (ᄐ) (ᄑ) (ᄒ) (가) (나) (다) (라)"),
  (0x3212, "(마) (바) (사) (아) (자) (차) (카) (타) (파) (하) (주) (오전) (오후)  (一) (二) (三) (四)"),
  (0x3224, "(五) (六) (七) (八) (九) (十) (月) (火) (水) (木) (金) (土) (日) (株) (有) (社) (名) (特)"),
  (0x3236, "(財) (祝) (労) (代) (呼) (学) (監) (企) (資) (協) (祭) (休) (自) (至)"),
  (0x3250, "pte 21 22 23 24 25 26 27 28 29 30 31 32 33 34 35"), (0x327C, "참고 주의"),
  (0x32B1, "36 37 38 39 40 41 42 43 44 45 46 47 48 49 50 1月 2月 3月 4月 5月 6月 7月 8月 9月"),
  (0x32C9, "10月 11月 12月 hg erg ev ltd"),
  (0x32FF, "令和 アパート アルファ アンペア アール イニング インチ ウォン エスクード エーカー オンス オーム カイリ カラット カロリー ガロン"),
  (0x330F, "ガンマ ギガ ギニー キュリー ギルダー キロ キログラム キロメートル キロワット グラム グラムトン クルゼイロ クローネ ケース コルナ"),
  (0x331E, "コーポ サイクル サンチーム シリング センチ セント ダース デシ ドル トン ナノ ノット ハイツ パーセント パーツ バーレル ピアストル"),
  (0x332F, "ピクル ピコ ビル ファラッド フィート ブッシェル フラン ヘクタール ペソ ペニヒ ヘルツ ペンス ページ ベータ ポイント ボルト ホン"),
  (0x3340, "ポンド ホール ホーン マイクロ マイル マッハ マルク マンション ミクロン ミリ ミリバール メガ メガトン メートル ヤード ヤール ユアン"),
  (0x3351, "リットル リラ ルピー ルーブル レム レントゲン ワット 0点 1点 2点 3点 4点 5点 6点 7点 8点 9点 10点 11点 12点"),
  (0x3365, "13点 14点 15点 16点 17点 18点 19点 20点 21点 22点 23点 24点 hpa da au bar ov pc dm"),
  (0x3378, "dm2 dm3 iu 平成 昭和 大正 明治 株式会社 pa na μa ma ka kb mb gb cal kcal pf nf μf μg"),
  (0x338E, "mg kg hz khz mhz ghz thz μl ml dl kl fm nm μm mm cm km mm2 cm2 m2 km2 mm3"),
  (0x33A4, "cm3 m3 km3 m∕s m∕s2 pa kpa mpa gpa rad rad∕s rad∕s2 ps ns μs ms pv nv μv"),
  (0x33B7, "mv kv mv pw nw μw mw kw mw kω mω  bq cc cd c∕kg  db gy ha hp in kk km kt"),
  (0x33D0, "lm ln log lx mb mil mol ph  ppm pr sr sv wb v∕m a∕m 1日 2日 3日 4日 5日 6日 7日"),
  (0x33E7, "8日 9日 10日 11日 12日 13日 14日 15日 16日 17日 18日 19日 20日 21日 22日 23日 24日 25日 26日"),
  (0x33FA, "27日 28日 29日 30日 31日 gal"), (0xFB00, "ff fi fl ffi ffl st st"),
  (0xFB13, "մն մե մի վն մխ"), (0xFB1D, "\u05d9\u05b4  \u05f2\u05b7"),
  (0xFB2A, "\u05e9\u05c1 \u05e9\u05c2 \u05e9\u05bc\u05c1 \u05e9\u05bc\u05c2"),
  (0xFB2E, "\u05d0\u05b7 \u05d0\u05b8 \u05d0\u05bc \u05d1\u05bc \u05d2\u05bc"),
  (0xFB33, "\u05d3\u05bc \u05d4\u05bc \u05d5\u05bc \u05d6\u05bc  \u05d8\u05bc"),
  (0xFB39, "\u05d9\u05bc \u05da\u05bc \u05db\u05bc \u05dc\u05bc  \u05de\u05bc "),
  (0xFB40, "\u05e0\u05bc \u05e1\u05bc  \u05e3\u05bc \u05e4\u05bc  \u05e6\u05bc"),
  (0xFB47, "\u05e7\u05bc \u05e8\u05bc \u05e9\u05bc \u05ea\u05bc \u05d5\u05b9"),
  (0xFB4C, "\u05d1\u05bf \u05db\u05bf \u05e4\u05bf \u05d0\u05dc"), (0xFBDD, "\u06c7\u0674"),
  (0xFBEA, "\u0626\u0627 \u0626\u0627 \u0626\u06d5 \u0626\u06d5 \u0626\u0648"),
  (0xFBEF, "\u0626\u0648 \u0626\u06c7 \u0626\u06c7 \u0626\u06c6 \u0626\u06c6"),
  (0xFBF4, "\u0626\u06c8 \u0626\u06c8 \u0626\u06d0 \u0626\u06d0 \u0626\u06d0"),
  (0xFBF9, "\u0626\u0649 \u0626\u0649 \u0626\u0649     \u0626\u062c \u0626\u062d"),
  (0xFC02, "\u0626\u0645 \u0626\u0649 \u0626\u064a \u0628\u062c \u0628\u062d"),
  (0xFC07, "\u0628\u062e \u0628\u0645 \u0628\u0649 \u0628\u064a \u062a\u062c"),
  (0xFC0C, "\u062a\u062d \u062a\u062e \u062a\u0645 \u062a\u0649 \u062a\u064a"),
  (0xFC11, "\u062b\u062c \u062b\u0645 \u062b\u0649 \u062b\u064a \u062c\u062d"),
  (0xFC16, "\u062c\u0645 \u062d\u062c \u062d\u0645 \u062e\u062c \u062e\u062d"),
  (0xFC1B, "\u062e\u0645 \u0633\u062c \u0633\u062d \u0633\u062e \u0633\u0645"),
  (0xFC20, "\u0635\u062d \u0635\u0645 \u0636\u062c \u0636\u062d \u0636\u062e"),
  (0xFC25, "\u0636\u0645 \u0637\u062d \u0637\u0645 \u0638\u0645 \u0639\u062c"),
  (0xFC2A, "\u0639\u0645 \u063a\u062c \u063a\u0645 \u0641\u062c \u0641\u062d"),
  (0xFC2F, "\u0641\u062e \u0641\u0645 \u0641\u0649 \u0641\u064a \u0642\u062d"),
  (0xFC34, "\u0642\u0645 \u0642\u0649 \u0642\u064a \u0643\u0627 \u0643\u062c"),
  (0xFC39, "\u0643\u062d \u0643\u062e \u0643\u0644 \u0643\u0645 \u0643\u0649"),
  (0xFC3E, "\u0643\u064a \u0644\u062c \u0644\u062d \u0644\u062e \u0644\u0645"),
  (0xFC43, "\u0644\u0649 \u0644\u064a \u0645\u062c \u0645\u062d \u0645\u062e"),
  (0xFC48, "\u0645\u0645 \u0645\u0649 \u0645\u064a \u0646\u062c \u0646\u062d"),
  (0xFC4D, "\u0646\u062e \u0646\u0645 \u0646\u0649 \u0646\u064a \u0647\u062c"),
  (0xFC52, "\u0647\u0645 \u0647\u0649 \u0647\u064a \u064a\u062c \u064a\u062d"),
  (0xFC57, "\u064a\u062e \u064a\u0645 \u064a\u0649 \u064a\u064a \u0630\u0670"),
  (0xFC5C, "\u0631\u0670 \u0649\u0670"),
  (0xFC64, "\u0626\u0631 \u0626\u0632 \u0626\u0645 \u0626\u0646 \u0626\u0649"),
  (0xFC69, "\u0626\u064a \u0628\u0631 \u0628\u0632 \u0628\u0645 \u0628\u0646"),
  (0xFC6E, "\u0628\u0649 \u0628\u064a \u062a\u0631 \u062a\u0632 \u062a\u0645"),
  (0xFC73, "\u062a\u0646 \u062a\u0649 \u062a\u064a \u062b\u0631 \u062b\u0632"),
  (0xFC78, "\u062b\u0645 \u062b\u0646 \u062b\u0649 \u062b\u064a \u0641\u0649"),
  (0xFC7D, "\u0641\u064a \u0642\u0649 \u0642\u064a \u0643\u0627 \u0643\u0644"),
  (0xFC82, "\u0643\u0645 \u0643\u0649 \u0643\u064a \u0644\u0645 \u0644\u0649"),
  (0xFC87, "\u0644\u064a \u0645\u0627 \u0645\u0645 \u0646\u0631 \u0646\u0632"),
  (0xFC8C, "\u0646\u0645 \u0646\u0646 \u0646\u0649 \u0646\u064a \u0649\u0670"),
  (0xFC91, "\u064a\u0631 \u064a\u0632 \u064a\u0645 \u064a\u0646 \u064a\u0649"),
  (0xFC96, "\u064a\u064a \u0626\u062c \u0626\u062d \u0626\u062e \u0626\u0645"),
  (0xFC9B, "\u0626\u0647 \u0628\u062c \u0628\u062d \u0628\u062e \u0628\u0645"),
  (0xFCA0, "\u0628\u0647 \u062a\u062c \u062a\u062d \u062a\u062e \u062a\u0645"),
  (0xFCA5, "\u062a\u0647 \u062b\u0645 \u062c\u062d \u062c\u0645 \u062d\u062c"),
  (0xFCAA, "\u062d\u0645 \u062e\u062c \u062e\u0645 \u0633\u062c \u0633\u062d"),
  (0xFCAF, "\u0633\u062e \u0633\u0645 \u0635\u062d \u0635\u062e \u0635\u0645"),
  (0xFCB4, "\u0636\u062c \u0636\u062d \u0636\u062e \u0636\u0645 \u0637\u062d"),
  (0xFCB9, "\u0638\u0645 \u0639\u062c \u0639\u0645 \u063a\u062c \u063a\u0645"),
  (0xFCBE, "\u0641\u062c \u0641\u062d \u0641\u062e \u0641\u0645 \u0642\u062d"),
  (0xFCC3, "\u0642\u0645 \u0643\u062c \u0643\u062d \u0643\u062e \u0643\u0644"),
  (0xFCC8, "\u0643\u0645 \u0644\u062c \u0644\u062d \u0644\u062e \u0644\u0645"),
  (0xFCCD, "\u0644\u0647 \u0645\u062c \u0645\u062d \u0645\u062e \u0645\u0645"),
  (0xFCD2, "\u0646\u062c \u0646\u062d \u0646\u062e \u0646\u0645 \u0646\u0647"),
  (0xFCD7, "\u0647\u062c \u0647\u0645 \u0647\u0670 \u064a\u062c \u064a\u062d"),
  (0xFCDC, "\u064a\u062e \u064a\u0645 \u064a\u0647 \u0626\u0645 \u0626\u0647"),
  (0xFCE1, "\u0628\u0645 \u0628\u0647 \u062a\u0645 \u062a\u0647 \u062b\u0645"),
  (0xFCE6, "\u062b\u0647 \u0633\u0645 \u0633\u0647 \u0634\u0645 \u0634\u0647"),
  (0xFCEB, "\u0643\u0644 \u0643\u0645 \u0644\u0645 \u0646\u0645 \u0646\u0647"),
  (0xFCF0, "\u064a\u0645 \u064a\u0647 \u0640\u064e\u0651 \u0640\u064f\u0651"),
  (0xFCF4, "\u0640\u0650\u0651 \u0637\u0649 \u0637\u064a \u0639\u0649 \u0639\u064a"),
  (0xFCF9, "\u063a\u0649 \u063a\u064a \u0633\u0649 \u0633\u064a \u0634\u0649"),
  (0xFCFE, "\u0634\u064a \u062d\u0649 \u062d\u064a \u062c\u0649 \u062c\u064a"),
  (0xFD03, "\u062e\u0649 \u062e\u064a \u0635\u0649 \u0635\u064a \u0636\u0649"),
  (0xFD08, "\u0636\u064a \u0634\u062c \u0634\u062d \u0634\u062e \u0634\u0645"),
  (0xFD0D, "\u0634\u0631 \u0633\u0631 \u0635\u0631 \u0636\u0631 \u0637\u0649"),
  (0xFD12, "\u0637\u064a \u0639\u0649 \u0639\u064a \u063a\u0649 \u063a\u064a"),
  (0xFD17, "\u0633\u0649 \u0633\u064a \u0634\u0649 \u0634\u064a \u062d\u0649"),
  (0xFD1C, "\u062d\u064a \u062c\u0649 \u062c\u064a \u062e\u0649 \u062e\u064a"),
  (0xFD21, "\u0635\u0649 \u0635\u064a \u0636\u0649 \u0636\u064a \u0634\u062c"),
  (0xFD26, "\u0634\u062d \u0634\u062e \u0634\u0645 \u0634\u0631 \u0633\u0631"),
  (0xFD2B, "\u0635\u0631 \u0636\u0631 \u0634\u062c \u0634\u062d \u0634\u062e"),
  (0xFD30, "\u0634\u0645 \u0633\u0647 \u0634\u0647 \u0637\u0645 \u0633\u062c"),
  (0xFD35, "\u0633\u062d \u0633\u062e \u0634\u062c \u0634\u062d \u0634\u062e"),
  (0xFD3A, "\u0637\u0645 \u0638\u0645 \u0627\u064b \u0627\u064b"),
  (0xFD50, "\u062a\u062c\u0645 \u062a\u062d\u062c \u062a\u062d\u062c"),
  (0xFD53, "\u062a\u062d\u0645 \u062a\u062e\u0645 \u062a\u0645\u062c"),
  (0xFD56, "\u062a\u0645\u062d \u062a\u0645\u062e \u062c\u0645\u062d"),
  (0xFD59, "\u062c\u0645\u062d \u062d\u0645\u064a \u062d\u0645\u0649"),
  (0xFD5C, "\u0633\u062d\u062c \u0633\u062c\u062d \u0633\u062c\u0649"),
  (0xFD5F, "\u0633\u0645\u062d \u0633\u0645\u062d \u0633\u0645\u062c"),
  (0xFD62, "\u0633\u0645\u0645 \u0633\u0645\u0645 \u0635\u062d\u062d"),
  (0xFD65, "\u0635\u062d\u062d \u0635\u0645\u0645 \u0634\u062d\u0645"),
  (0xFD68, "\u0634\u062d\u0645 \u0634\u062c\u064a \u0634\u0645\u062e"),
  (0xFD6B, "\u0634\u0645\u062e \u0634\u0645\u0645 \u0634\u0645\u0645"),
  (0xFD6E, "\u0636\u062d\u0649 \u0636\u062e\u0645 \u0636\u062e\u0645"),
  (0xFD71, "\u0637\u0645\u062d \u0637\u0645\u062d \u0637\u0645\u0645"),
  (0xFD74, "\u0637\u0645\u064a \u0639\u062c\u0645 \u0639\u0645\u0645"),
  (0xFD77, "\u0639\u0645\u0645 \u0639\u0645\u0649 \u063a\u0645\u0645"),
  (0xFD7A, "\u063a\u0645\u064a \u063a\u0645\u0649 \u0641\u062e\u0645"),
  (0xFD7D, "\u0641\u062e\u0645 \u0642\u0645\u062d \u0642\u0645\u0645"),
  (0xFD80, "\u0644\u062d\u0645 \u0644\u062d\u064a \u0644\u062d\u0649"),
  (0xFD83, "\u0644\u062c\u062c \u0644\u062c\u062c \u0644\u062e\u0645"),
  (0xFD86, "\u0644\u062e\u0645 \u0644\u0645\u062d \u0644\u0645\u062d"),
  (0xFD89, "\u0645\u062d\u062c \u0645\u062d\u0645 \u0645\u062d\u064a"),
  (0xFD8C, "\u0645\u062c\u062d \u0645\u062c\u0645 \u0645\u062e\u062c"),
  (0xFD8F, "\u0645\u062e\u0645   \u0645\u062c\u062e \u0647\u0645\u062c"),
  (0xFD94, "\u0647\u0645\u0645 \u0646\u062d\u0645 \u0646\u062d\u0649"),
  (0xFD97, "\u0646\u062c\u0645 \u0646\u062c\u0645 \u0646\u062c\u0649"),
  (0xFD9A, "\u0646\u0645\u064a \u0646\u0645\u0649 \u064a\u0645\u0645"),
  (0xFD9D, "\u064a\u0645\u0645 \u0628\u062e\u064a \u062a\u062c\u064a"),
  (0xFDA0, "\u062a\u062c\u0649 \u062a\u062e\u064a \u062a\u062e\u0649"),
  (0xFDA3, "\u062a\u0645\u064a \u062a\u0645\u0649 \u062c\u0645\u064a"),
  (0xFDA6, "\u062c\u062d\u0649 \u062c\u0645\u0649 \u0633\u062e\u0649"),
  (0xFDA9, "\u0635\u062d\u064a \u0634\u062d\u064a \u0636\u062d\u064a"),
  (0xFDAC, "\u0644\u062c\u064a \u0644\u0645\u064a \u064a\u062d\u064a"),
  (0xFDAF, "\u064a\u062c\u064a \u064a\u0645\u064a \u0645\u0645\u064a"),
  (0xFDB2, "\u0642\u0645\u064a \u0646\u062d\u064a \u0642\u0645\u062d"),
  (0xFDB5, "\u0644\u062d\u0645 \u0639\u0645\u064a \u0643\u0645\u064a"),
  (0xFDB8, "\u0646\u062c\u062d \u0645\u062e\u064a \u0644\u062c\u0645"),
  (0xFDBB, "\u0643\u0645\u0645 \u0644\u062c\u0645 \u0646\u062c\u062d"),
  (0xFDBE, "\u062c\u062d\u064a \u062d\u062c\u064a \u0645\u062c\u064a"),
  (0xFDC1, "\u0641\u0645\u064a \u0628\u062d\u064a \u0643\u0645\u0645"),
  (0xFDC4, "\u0639\u062c\u0645 \u0635\u0645\u0645 \u0633\u062e\u064a"),
  (0xFDC7, "\u0646\u062c\u064a"),
  (0xFDF0, "\u0635\u0644\u06d2 \u0642\u0644\u06d2 \u0627\u0644\u0644\u0647"),
  (0xFDF3, "\u0627\u0643\u0628\u0631 \u0645\u062d\u0645\u062f"),
  (0xFDF5, "\u0635\u0644\u0639\u0645 \u0631\u0633\u0648\u0644"),
  (0xFDF7, "\u0639\u0644\u064a\u0647 \u0648\u0633\u0644\u0645 \u0635\u0644\u0649  "),
  (0xFDFC, "\u0631\u06cc\u0627\u0644"), (0xFE71, "\u0640\u064b"),
  (0xFE77, "\u0640\u064e  \u0640\u064f  \u0640\u0650  \u0640\u0651  \u0640\u0652"),
  (0xFEF5, "\u0644\u0622 \u0644\u0622 \u0644\u0623 \u0644\u0623 \u0644\u0625"),
  (0xFEFA, "\u0644\u0625 \u0644\u0627 \u0644\u0627"), (0x1D15E, "𝅗𝅥 𝅘𝅥 𝅘𝅥𝅮 𝅘𝅥𝅯 𝅘𝅥𝅰 𝅘𝅥𝅱 𝅘𝅥𝅲"),
  (0x1D1BB, "𝆹𝅥 𝆺𝅥 𝆹𝅥𝅮 𝆺𝅥𝅮 𝆹𝅥𝅯 𝆺𝅥𝅯"), (0x1F101, "0, 1, 2, 3, 4, 5, 6, 7, 8, 9,"),
  (0x1F110, "(a) (b) (c) (d) (e) (f) (g) (h) (i) (j) (k) (l) (m) (n) (o) (p) (q) (r)"),
  (0x1F122, "(s) (t) (u) (v) (w) (x) (y) (z) 〔s〕   cd wz"), (0x1F14A, "hv mv sd ss ppv wc"),
  (0x1F16A, "mc md mr"), (0x1F190, "dj"), (0x1F200, "ほか ココ"),
  (0x1F240, "〔本〕 〔三〕 〔二〕 〔安〕 〔点〕 〔打〕 〔盗〕 〔勝〕 〔敗〕")]

end CachingProxy.SpellingTable
