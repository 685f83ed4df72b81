namespace CachingProxy.VariantTable

/-- Characters from `first` to `last`, every `step`-th of them, with what the first one stands for;
the others stand for those after that. -/
structure Fold where
  first : Nat
  last : Nat
  step : Nat
  target : Nat

def folds : List Fold := [
  ⟨0xC0, 0xD6, 1, 0xE0⟩, ⟨0xD8, 0xDE, 1, 0xF8⟩, ⟨0x100, 0x12E, 2, 0x101⟩, ⟨0x139, 0x13D, 2, 0x13A⟩,
  ⟨0x141, 0x147, 2, 0x142⟩, ⟨0x14A, 0x176, 2, 0x14B⟩, ⟨0x179, 0x17D, 2, 0x17A⟩,
  ⟨0x1A0, 0x1A4, 2, 0x1A1⟩, ⟨0x1CD, 0x1DB, 2, 0x1CE⟩, ⟨0x1DE, 0x1EE, 2, 0x1DF⟩,
  ⟨0x1F8, 0x21E, 2, 0x1F9⟩, ⟨0x222, 0x232, 2, 0x223⟩, ⟨0x246, 0x24E, 2, 0x247⟩,
  ⟨0x391, 0x3AB, 1, 0x3B1⟩, ⟨0x3D8, 0x3EE, 2, 0x3D9⟩, ⟨0x400, 0x40F, 1, 0x450⟩,
  ⟨0x410, 0x42F, 1, 0x430⟩, ⟨0x460, 0x480, 2, 0x461⟩, ⟨0x48A, 0x4BE, 2, 0x48B⟩,
  ⟨0x4C1, 0x4CD, 2, 0x4C2⟩, ⟨0x4D0, 0x52E, 2, 0x4D1⟩, ⟨0x531, 0x556, 1, 0x561⟩,
  ⟨0x10A0, 0x10CD, 1, 0x2D00⟩, ⟨0x13F8, 0x13FD, 1, 0x13F0⟩, ⟨0x1C90, 0x1CBF, 1, 0x10D0⟩,
  ⟨0x1D33, 0x1D3A, 1, 0x67⟩, ⟨0x1DAE, 0x1DB1, 1, 0x272⟩, ⟨0x1E00, 0x1E94, 2, 0x1E01⟩,
  ⟨0x1EA0, 0x1EFE, 2, 0x1EA1⟩, ⟨0x1F08, 0x1F0F, 1, 0x1F00⟩, ⟨0x1F18, 0x1F1D, 1, 0x1F10⟩,
  ⟨0x1F28, 0x1F2F, 1, 0x1F20⟩, ⟨0x1F38, 0x1F3F, 1, 0x1F30⟩, ⟨0x1F48, 0x1F4D, 1, 0x1F40⟩,
  ⟨0x1F59, 0x1F5F, 1, 0x1F51⟩, ⟨0x1F68, 0x1F6F, 1, 0x1F60⟩, ⟨0x1FEF, 0x1FEF, 1, 0x60⟩,
  ⟨0x2074, 0x2079, 1, 0x34⟩, ⟨0x2080, 0x2089, 1, 0x30⟩, ⟨0x2096, 0x2099, 1, 0x6B⟩,
  ⟨0x2135, 0x2138, 1, 0x5D0⟩, ⟨0x2460, 0x2468, 1, 0x31⟩, ⟨0x24B6, 0x24CF, 1, 0x61⟩,
  ⟨0x24D0, 0x24E9, 1, 0x61⟩, ⟨0x2C00, 0x2C2F, 1, 0x2C30⟩, ⟨0x2C67, 0x2C6B, 2, 0x2C68⟩,
  ⟨0x2C80, 0x2CE2, 2, 0x2C81⟩, ⟨0x313A, 0x313F, 1, 0x11B0⟩, ⟨0x3145, 0x314E, 1, 0x1109⟩,
  ⟨0x314F, 0x3163, 1, 0x1161⟩, ⟨0x3178, 0x317C, 1, 0x112B⟩, ⟨0x3269, 0x326D, 1, 0x110E⟩,
  ⟨0x32E4, 0x32E9, 1, 0x30CA⟩, ⟨0x32EE, 0x32F2, 1, 0x30DE⟩, ⟨0x32F5, 0x32FA, 1, 0x30E8⟩,
  ⟨0x32FB, 0x32FE, 1, 0x30EF⟩, ⟨0xA640, 0xA66C, 2, 0xA641⟩, ⟨0xA680, 0xA69A, 2, 0xA681⟩,
  ⟨0xA722, 0xA72E, 2, 0xA723⟩, ⟨0xA732, 0xA76E, 2, 0xA733⟩, ⟨0xA77E, 0xA786, 2, 0xA77F⟩,
  ⟨0xA796, 0xA7A8, 2, 0xA797⟩, ⟨0xA7B4, 0xA7C2, 2, 0xA7B5⟩, ⟨0xA7CC, 0xA7DA, 2, 0xA7CD⟩,
  ⟨0xAB70, 0xABBF, 1, 0x13A0⟩, ⟨0xFE37, 0xFE37, 1, 0x7B⟩, ⟨0xFE38, 0xFE38, 1, 0x7D⟩,
  ⟨0xFE41, 0xFE44, 1, 0x300C⟩, ⟨0xFE5B, 0xFE5B, 1, 0x7B⟩, ⟨0xFE5C, 0xFE5C, 1, 0x7D⟩,
  ⟨0xFF01, 0xFF1D, 1, 0x21⟩, ⟨0xFF21, 0xFF3A, 1, 0x61⟩, ⟨0xFF3F, 0xFF5E, 1, 0x5F⟩,
  ⟨0xFF85, 0xFF8A, 1, 0x30CA⟩, ⟨0xFF8F, 0xFF93, 1, 0x30DE⟩, ⟨0xFF96, 0xFF9B, 1, 0x30E8⟩,
  ⟨0xFFAA, 0xFFAF, 1, 0x11B0⟩, ⟨0xFFB5, 0xFFBE, 1, 0x1109⟩, ⟨0xFFC2, 0xFFC7, 1, 0x1161⟩,
  ⟨0xFFCA, 0xFFCF, 1, 0x1167⟩, ⟨0xFFD2, 0xFFD7, 1, 0x116D⟩, ⟨0xFFE9, 0xFFEC, 1, 0x2190⟩,
  ⟨0x10400, 0x10427, 1, 0x10428⟩, ⟨0x104B0, 0x104D3, 1, 0x104D8⟩, ⟨0x10570, 0x10595, 1, 0x10597⟩,
  ⟨0x10C80, 0x10CB2, 1, 0x10CC0⟩, ⟨0x10D50, 0x10D65, 1, 0x10D70⟩, ⟨0x118A0, 0x118BF, 1, 0x118C0⟩,
  ⟨0x16E40, 0x16E5F, 1, 0x16E60⟩, ⟨0x16EA0, 0x16EB8, 1, 0x16EBB⟩, ⟨0x1CCD6, 0x1CCEF, 1, 0x61⟩,
  ⟨0x1CCF0, 0x1CCF9, 1, 0x30⟩, ⟨0x1D400, 0x1D419, 1, 0x61⟩, ⟨0x1D41A, 0x1D433, 1, 0x61⟩,
  ⟨0x1D434, 0x1D44D, 1, 0x61⟩, ⟨0x1D44E, 0x1D467, 1, 0x61⟩, ⟨0x1D468, 0x1D481, 1, 0x61⟩,
  ⟨0x1D482, 0x1D49B, 1, 0x61⟩, ⟨0x1D49C, 0x1D4B5, 1, 0x61⟩, ⟨0x1D4B6, 0x1D4CF, 1, 0x61⟩,
  ⟨0x1D4D0, 0x1D4E9, 1, 0x61⟩, ⟨0x1D4EA, 0x1D503, 1, 0x61⟩, ⟨0x1D504, 0x1D51C, 1, 0x61⟩,
  ⟨0x1D51E, 0x1D537, 1, 0x61⟩, ⟨0x1D538, 0x1D550, 1, 0x61⟩, ⟨0x1D552, 0x1D56B, 1, 0x61⟩,
  ⟨0x1D56C, 0x1D585, 1, 0x61⟩, ⟨0x1D586, 0x1D59F, 1, 0x61⟩, ⟨0x1D5A0, 0x1D5B9, 1, 0x61⟩,
  ⟨0x1D5BA, 0x1D5D3, 1, 0x61⟩, ⟨0x1D5D4, 0x1D5ED, 1, 0x61⟩, ⟨0x1D5EE, 0x1D607, 1, 0x61⟩,
  ⟨0x1D608, 0x1D621, 1, 0x61⟩, ⟨0x1D622, 0x1D63B, 1, 0x61⟩, ⟨0x1D63C, 0x1D655, 1, 0x61⟩,
  ⟨0x1D656, 0x1D66F, 1, 0x61⟩, ⟨0x1D670, 0x1D689, 1, 0x61⟩, ⟨0x1D68A, 0x1D6A3, 1, 0x61⟩,
  ⟨0x1D6A8, 0x1D6B8, 1, 0x3B1⟩, ⟨0x1D6BA, 0x1D6C0, 1, 0x3C3⟩, ⟨0x1D6C2, 0x1D6D2, 1, 0x3B1⟩,
  ⟨0x1D6D4, 0x1D6DA, 1, 0x3C3⟩, ⟨0x1D6E2, 0x1D6F2, 1, 0x3B1⟩, ⟨0x1D6F4, 0x1D6FA, 1, 0x3C3⟩,
  ⟨0x1D6FC, 0x1D70C, 1, 0x3B1⟩, ⟨0x1D70E, 0x1D714, 1, 0x3C3⟩, ⟨0x1D71C, 0x1D72C, 1, 0x3B1⟩,
  ⟨0x1D72E, 0x1D734, 1, 0x3C3⟩, ⟨0x1D736, 0x1D746, 1, 0x3B1⟩, ⟨0x1D748, 0x1D74E, 1, 0x3C3⟩,
  ⟨0x1D756, 0x1D766, 1, 0x3B1⟩, ⟨0x1D768, 0x1D76E, 1, 0x3C3⟩, ⟨0x1D770, 0x1D780, 1, 0x3B1⟩,
  ⟨0x1D782, 0x1D788, 1, 0x3C3⟩, ⟨0x1D790, 0x1D7A0, 1, 0x3B1⟩, ⟨0x1D7A2, 0x1D7A8, 1, 0x3C3⟩,
  ⟨0x1D7AA, 0x1D7BA, 1, 0x3B1⟩, ⟨0x1D7BC, 0x1D7C2, 1, 0x3C3⟩, ⟨0x1D7CE, 0x1D7D7, 1, 0x30⟩,
  ⟨0x1D7D8, 0x1D7E1, 1, 0x30⟩, ⟨0x1D7E2, 0x1D7EB, 1, 0x30⟩, ⟨0x1D7EC, 0x1D7F5, 1, 0x30⟩,
  ⟨0x1D7F6, 0x1D7FF, 1, 0x30⟩, ⟨0x1E030, 0x1E038, 1, 0x430⟩, ⟨0x1E03C, 0x1E046, 1, 0x43E⟩,
  ⟨0x1E051, 0x1E059, 1, 0x430⟩, ⟨0x1E05F, 0x1E064, 1, 0x443⟩, ⟨0x1E900, 0x1E921, 1, 0x1E922⟩,
  ⟨0x1EE0A, 0x1EE0D, 1, 0x643⟩, ⟨0x1EE2A, 0x1EE2D, 1, 0x643⟩, ⟨0x1F130, 0x1F149, 1, 0x61⟩,
  ⟨0x1FBF0, 0x1FBF9, 1, 0x30⟩]

/-- What consecutive characters, of which the first is given, stand for; a blank where a character
stands for itself. -/
def letters : List (Nat × String) := [
  (0xAA, "a"), (0xB2, "23 μ   1o"), (0x134, "ĵ ķ"), (0x178, "ÿ"),
  (0x17F, "s ɓƃ ƅ ɔƈ ɖɗƌ  ǝəɛƒ ɠɣ ɩɨƙ   ɯɲ ɵ"), (0x1A6, "ʀƨ ʃ  ƭ ʈư ʊʋƴ ƶ ʒƹ   ƽ"), (0x1F4, "ǵ ƕƿ"),
  (0x220, "ƞ"), (0x23A, "ⱥȼ ƚⱦ  ɂ ƀʉʌ"), (0x2B0, "hɦjrɹɻʁwy"), (0x2E0, "ɣlsxʕ"),
  (0x340, "\u0300\u0301 \u0313 ι"), (0x370, "ͱ ͳ ʹ ͷ"), (0x37E, ";ϳ"), (0x386, "ά·έήί ό ύώ"),
  (0x3CF, "ϗβθυύϋφπ"), (0x3F0, "κρσ θε ϸ σϻ  ͻͼͽ"), (0x4C0, "ӏ"), (0xF0C, "་"), (0x10FC, "ნ"),
  (0x1C80, "вдосттъѣꙋᲊ"), (0x1D2C, "aæb deǝ"),
  (0x1D3C, "oȣprtuwaɐɑᴂbdeəɛɜg kmŋoɔᴖᴗptuᴝɯvᴥβγδφχiruvβγρφχ"), (0x1D78, "н"),
  (0x1D9B, "ɒcɕðɜfɟɡɥɨɩɪᵻʝɭᶅʟɱɰ    ɸʂʃƫʉʊᴜʋʌzʐʑʒθ"), (0x1E9B, "ṡ  ß"), (0x1F71, "ά έ ή ί ό ύ ώ"),
  (0x1FB8, "ᾰᾱὰά  ι"), (0x1FC8, "ὲέὴή"), (0x1FD3, "ΐ    ῐῑὶί"), (0x1FE3, "ΰ    ῠῡὺύῥ"),
  (0x1FF8, "ὸόὼώ"), (0x2011, "‐"), (0x2070, "0i"), (0x207A, "+−=()n"),
  (0x208A, "+−=() aeoxəh    pst"), (0x2102, "c    ɛ  ghhhhħiill n   pqrrr"),
  (0x2124, "z ω z kåbc eefⅎmo    i  πγγπ∑    ddeij"),
  (0x2160, "i   v    x  lcdmi   v    x  lcdm   ↄ"), (0x2329, "〈〉"), (0x24EA, "0"),
  (0x2C60, "ⱡ ɫᵽɽ"), (0x2C6D, "ɑɱɐɒ ⱳ  ⱶ"), (0x2C7C, "jvȿɀ"), (0x2CEB, "ⳬ ⳮ    ⳳ"), (0x2D6F, "ⵡ"),
  (0x2E9F, "母"), (0x2EF3, "龟"),
  (0x2F00, "一丨丶丿乙亅二亠人儿入八冂冖冫几凵刀力勹匕匚匸十卜卩厂厶又口囗土士夂夊夕大女子宀寸小尢尸屮山巛工己巾干幺广廴廾弋弓彐彡彳心戈戶手支攴文斗斤方无日曰月"),
  (0x2F4A, "木欠止歹殳毋比毛氏气水火爪父爻爿片牙牛犬玄玉瓜瓦甘生用田疋疒癶白皮皿目矛矢石示禸禾穴立竹米糸缶网羊羽老而耒耳聿肉臣自至臼舌舛舟艮色艸虍虫血行衣襾見角"),
  (0x2F94, "言谷豆豕豸貝赤走足身車辛辰辵邑酉釆里金長門阜隶隹雨靑非面革韋韭音頁風飛食首香馬骨高髟鬥鬯鬲鬼魚鳥鹵鹿麥麻黃黍黑黹黽鼎鼓鼠鼻齊齒龍龜龠"), (0x3002, "."),
  (0x3036, "〒 十卄卅"), (0x3131, "ᄀᄁᆪᄂᆬᆭᄃᄄᄅ"), (0x3140, "ᄚᄆᄇᄈᄡ"), (0x3165, "ᄔᄕᇇᇈᇌᇎᇓᇗᇙᄜᇝᇟᄝᄞᄠᄢᄣᄧᄩ"),
  (0x317D, "ᄲᄶᅀᅇᅌᇱᇲᅗᅘᅙᆄᆅᆈᆑᆒᆔᆞᆡ   一二三四上中下甲乙丙丁天地人"), (0x3244, "問幼文箏"), (0x3260, "ᄀᄂᄃᄅᄆᄇᄉᄋᄌ"),
  (0x326E, "가나다라마바사아자차카타파하  우 一二三四五六七八九十月火水木金土日株有社名特財祝労秘男女適優印注項休写正上中下左右医宗学監企資協夜"),
  (0x32D0, "アイウエオカキクケコサシスセソタチツテト"), (0x32EA, "ヒフヘホ"), (0x32F3, "ヤユ"), (0xA69C, "ъь"), (0xA770, "ꝯ"),
  (0xA779, "ꝺ ꝼ ᵹ"), (0xA78B, "ꞌ ɥ  ꞑ ꞓ"), (0xA7AA, "ɦɜɡɬɪ ʞʇʝꭓ"), (0xA7C4, "ꞔʂᶎꟈ ꟊ ɤ"),
  (0xA7DC, "ƛ"), (0xA7F1, "scfqꟶ  ħœ"), (0xAB5C, "ꜧꬷɫꭒ"), (0xAB69, "ʍ"),
  (0xF900, "豈更車賈滑串句龜龜契金喇奈懶癩羅蘿螺裸邏樂洛烙珞落酪駱亂卵欄爛蘭鸞嵐濫藍襤拉臘蠟廊朗浪狼郎來冷勞擄櫓爐盧老蘆虜路露魯鷺碌祿綠菉錄鹿論壟弄籠聾牢磊賂雷"),
  (0xF94A, "壘屢樓淚漏累縷陋勒肋凜凌稜綾菱陵讀拏樂諾丹寧怒率異北磻便復不泌數索參塞省葉說殺辰沈拾若掠略亮兩凉梁糧良諒量勵呂女廬旅濾礪閭驪麗黎力曆歷轢年憐戀撚漣煉"),
  (0xF994, "璉秊練聯輦蓮連鍊列劣咽烈裂說廉念捻殮簾獵令囹寧嶺怜玲瑩羚聆鈴零靈領例禮醴隸惡了僚寮尿料樂燎療蓼遼龍暈阮劉杻柳流溜琉留硫紐類六戮陸倫崙淪輪律慄栗率隆利"),
  (0xF9DE, "吏履易李梨泥理痢罹裏裡里離匿溺吝燐璘藺隣鱗麟林淋臨立笠粒狀炙識什茶刺切度拓糖宅洞暴輻行降見廓兀嗀  塚 晴  凞猪益礼神祥福靖精羽 蘒 諸  逸都 "),
  (0xFA28, "  飯飼館鶴郞隷侮僧免勉勤卑喝嘆器塀墨層屮悔慨憎懲敏既暑梅海渚漢煮爫琢碑社祉祈祐祖祝禍禎穀突節練縉繁署者臭艹艹著褐視謁謹賓贈辶逸難響頻恵𤋮舘  並况"),
  (0xFA72, "全侀充冀勇勺喝啕喙嗢塚墳奄奔婢嬨廒廙彩徭惘慎愈憎慠懲戴揄搜摒敖晴朗望杖歹殺流滛滋漢瀞煮瞧爵犯猪瑱甆画瘝瘟益盛直睊着磌窱節类絛練缾者荒華蝹襁覆視調諸請"),
  (0xFABC, "謁諾諭謹變贈輸遲醙鉶陼難靖韛響頋頻鬒龜𢡊𢡄𣏕㮝䀘䀹𥉉𥳐𧻓齃龎"),
  (0xFB20, "\u05e2\u05d0\u05d3\u05d4\u05db\u05dc\u05dd\u05e8\u05ea+"),
  (0xFB50, "\u0671\u0671\u067b\u067b\u067b\u067b\u067e\u067e\u067e\u067e\u0680\u0680"),
  (0xFB5C, "\u0680\u0680\u067a\u067a\u067a\u067a\u067f\u067f\u067f\u067f\u0679\u0679"),
  (0xFB68, "\u0679\u0679\u06a4\u06a4\u06a4\u06a4\u06a6\u06a6\u06a6\u06a6\u0684\u0684"),
  (0xFB74, "\u0684\u0684\u0683\u0683\u0683\u0683\u0686\u0686\u0686\u0686\u0687\u0687"),
  (0xFB80, "\u0687\u0687\u068d\u068d\u068c\u068c\u068e\u068e\u0688\u0688\u0698\u0698"),
  (0xFB8C, "\u0691\u0691\u06a9\u06a9\u06a9\u06a9\u06af\u06af\u06af\u06af\u06b3\u06b3"),
  (0xFB98, "\u06b3\u06b3\u06b1\u06b1\u06b1\u06b1\u06ba\u06ba\u06bb\u06bb\u06bb\u06bb"),
  (0xFBA4, "\u06c0\u06c0\u06c1\u06c1\u06c1\u06c1\u06be\u06be\u06be\u06be\u06d2\u06d2"),
  (0xFBB0, "\u06d3\u06d3"),
  (0xFBD3, "\u06ad\u06ad\u06ad\u06ad\u06c7\u06c7\u06c6\u06c6\u06c8\u06c8 \u06cb\u06cb"),
  (0xFBE0, "\u06c5\u06c5\u06c9\u06c9\u06d0\u06d0\u06d0\u06d0\u0649\u0649"),
  (0xFBFC, "\u06cc\u06cc\u06cc\u06cc"), (0xFE10, ",、  ;! 〖〗"), (0xFE31, "—–__()  〔〕【】《》〈〉"),
  (0xFE4D, "___,、  ;  !—()  〔〕 &*+-  =  $"),
  (0xFE80, "\u0621\u0622\u0622\u0623\u0623\u0624\u0624\u0625\u0625\u0626\u0626\u0626"),
  (0xFE8C, "\u0626\u0627\u0627\u0628\u0628\u0628\u0628\u0629\u0629\u062a\u062a\u062a"),
  (0xFE98, "\u062a\u062b\u062b\u062b\u062b\u062c\u062c\u062c\u062c\u062d\u062d\u062d"),
  (0xFEA4, "\u062d\u062e\u062e\u062e\u062e\u062f\u062f\u0630\u0630\u0631\u0631\u0632"),
  (0xFEB0, "\u0632\u0633\u0633\u0633\u0633\u0634\u0634\u0634\u0634\u0635\u0635\u0635"),
  (0xFEBC, "\u0635\u0636\u0636\u0636\u0636\u0637\u0637\u0637\u0637\u0638\u0638\u0638"),
  (0xFEC8, "\u0638\u0639\u0639\u0639\u0639\u063a\u063a\u063a\u063a\u0641\u0641\u0641"),
  (0xFED4, "\u0641\u0642\u0642\u0642\u0642\u0643\u0643\u0643\u0643\u0644\u0644\u0644"),
  (0xFEE0, "\u0644\u0645\u0645\u0645\u0645\u0646\u0646\u0646\u0646\u0647\u0647\u0647"),
  (0xFEEC, "\u0647\u0648\u0648\u0649\u0649\u064a\u064a\u064a\u064a"),
  (0xFF5F, "⦅⦆.「」、・ヲァィゥェォャュョッーアイウエオカキクケコサシスセソタチツテト"), (0xFF8B, "ヒフヘホ"), (0xFF94, "ヤユ"),
  (0xFF9C, "ワン\u3099\u309a ᄀᄁᆪᄂᆬᆭᄃᄄᄅ"), (0xFFB0, "ᄚᄆᄇᄈᄡ"), (0xFFDA, "ᅳᅴᅵ   ¢£¬ ¦¥₩ │    ■○"),
  (0x10781, "ːˑæʙɓ ʣꭦʥʤɖɗᶑɘɞʩɤɢɠʛħʜɧʄʪʫɬ𝼄ꞎɮ𝼅ʎ𝼆øɶɷqɺ𝼈ɽɾʀʨʦꭧʧʈⱱ ʏʡʢʘǀǁǂ𝼊𝼞"), (0x1D6A4, "ıȷ"),
  (0x1D6B9, "θ"), (0x1D6C1, "∇"), (0x1D6D3, "σ"), (0x1D6DB, "∂εθκφρπ"), (0x1D6F3, "θ"),
  (0x1D6FB, "∇"), (0x1D70D, "σ"), (0x1D715, "∂εθκφρπ"), (0x1D72D, "θ"), (0x1D735, "∇"),
  (0x1D747, "σ"), (0x1D74F, "∂εθκφρπ"), (0x1D767, "θ"), (0x1D76F, "∇"), (0x1D781, "σ"),
  (0x1D789, "∂εθκφρπ"), (0x1D7A1, "θ"), (0x1D7A9, "∇"), (0x1D7BB, "σ"), (0x1D7C3, "∂εθκφρπϝϝ"),
  (0x1E039, "клм"), (0x1E047, "ыэюꚉәіјөүӏ"), (0x1E05A, "клопс"), (0x1E065, "ъыґіѕџҫꙑұ"),
  (0x1EE00, "\u0627\u0628\u062c\u062f \u0648\u0632\u062d\u0637\u064a    \u0633\u0639"),
  (0x1EE10, "\u0641\u0635\u0642\u0631\u0634\u062a\u062b\u062e\u0630\u0636\u0638\u063a"),
  (0x1EE1C, "\u066e\u06ba\u06a1\u066f \u0628\u062c \u0647  \u062d \u064a    \u0633"),
  (0x1EE2F, "\u0639\u0641\u0635\u0642 \u0634\u062a\u062b\u062e \u0636 \u063a"),
  (0x1EE42, "\u062c    \u062d \u064a \u0644 \u0646\u0633\u0639 \u0635\u0642 \u0634  "),
  (0x1EE57, "\u062e \u0636 \u063a \u06ba \u066f \u0628\u062c \u0647  \u062d\u0637\u064a"),
  (0x1EE6A, "\u0643 \u0645\u0646\u0633\u0639\u0641\u0635\u0642 \u0634\u062a\u062b\u062e"),
  (0x1EE78, " \u0636\u0638\u063a\u066e \u06a1 \u0627\u0628\u062c\u062f\u0647\u0648"),
  (0x1EE86, "\u0632\u062d\u0637\u064a \u0644\u0645\u0646\u0633\u0639\u0641\u0635\u0642"),
  (0x1EE93, "\u0631\u0634\u062a\u062b\u062e\u0630\u0636\u0638\u063a"),
  (0x1EEA1, "\u0628\u062c\u062f \u0648\u0632\u062d\u0637\u064a \u0644\u0645\u0646\u0633"),
  (0x1EEAF, "\u0639\u0641\u0635\u0642\u0631\u0634\u062a\u062b\u062e\u0630\u0636\u0638"),
  (0x1EEBB, "\u063a"), (0x1F12B, "cr"), (0x1F202, "サ"),
  (0x1F210, "手字双デ二多解天交映無料前後再新初終生販声吹演投捕一三遊左中右指走打禁空合満有月申割営配"), (0x1F250, "得可"),
  (0x2F800, "丽丸乁𠄢你侮侻倂偺備僧像㒞𠘺免兔兤具𠔜㒹內再𠕋冗冤仌冬况𩇟凵刃㓟刻剆割剷㔕勇勉勤勺包匆北卉卑博即卽卿卿卿𠨬灰及叟𠭣叫叱吆咞吸呈周咢哶唐啓啣善善喙喫喳"),
  (0x2F84A, "嗂圖嘆圗噑噴切壮城埴堍型堲報墬𡓤売壷夆多夢奢𡚨𡛪姬娛娧姘婦㛮㛼嬈嬾嬾𡧈寃寘寧寳𡬘寿将当尢㞁屠屮峀岍𡷤嵃𡷦嵮嵫嵼巡巢㠯巽帨帽幩㡢𢆃㡼庰庳庶廊𪎒廾𢌱𢌱舁"),
  (0x2F894, "弢弢㣇𣊸𦇚形彫㣣徚忍志忹悁㤺㤜悔𢛔惇慈慌慎慌慺憎憲憤憯懞懲懶成戛扝抱拔捐𢬌挽拼捨掃揤𢯱搢揅掩㨮摩摾撝摷㩬敏敬𣀊旣書晉㬙暑㬈㫤冒冕最暜肭䏙朗望朡杞杓𣏃"),
  (0x2F8DE, "㭉柺枅桒梅𣑭梎栟椔㮝楂榣槪檨𣚣櫛㰘次𣢧歔㱎歲殟殺殻𣪍𡴋𣫺汎𣲼沿泍汧洖派海流浩浸涅𣴞洴港湮㴳滋滇𣻑淹潮𣽞𣾎濆瀹瀞瀛㶖灊災灷炭𠔥煅𤉣熜𤎫爨爵牐𤘈犀犕𤜵𤠔"),
  (0x2F928, "獺王㺬玥㺸㺸瑇瑜瑱璅瓊㼛甤𤰶甾𤲒異𢆟瘐𤾡𤾸𥁄㿼䀈直𥃳𥃲𥄙𥄳眞真真睊䀹瞋䁆䂖𥐝硎碌磌䃣𥘦祖𥚚𥛅福秫䄯穀穊穏𥥼𥪧𥪧竮䈂𥮫篆築䈧𥲀糒䊠糨糣紀𥾆絣䌁緇縂繅䌴"),
  (0x2F972, "𦈨𦉇䍙𦋙罺𦌾羕翺者𦓚𦔣聠𦖨聰𣍟䏕育脃䐋脾媵𦞧𦞵𣎓𣎜舁舄辞䑫芑芋芝劳花芳芽苦𦬼若茝荣莭茣莽菧著荓菊菌菜𦰶𦵫𦳕䔫蓱蓳蔖𧏊蕤𦼬䕝䕡𦾱𧃒䕫虐虜虧虩蚩蚈蜎蛢蝹"),
  (0x2F9BC, "蜨蝫螆䗗蟡蠁䗹衠衣𧙧裗裞䘵裺㒻𧢮𧥦䚾䛇誠諭變豕𧲨貫賁贛起𧼯𠠄跋趼跰𠣞軔輸𨗒𨗭邔郱鄑𨜮鄛鈸鋗鋘鉼鏹鐕𨯺開䦕閷𨵷䧦雃嶲霣𩅅𩈚䩮䩶韠𩐊䪲𩒖頋頋頩𩖶飢䬳餩馧"),
  (0x2FA06, "駂駾䯎𩬰鬒鱀鳽䳎䳭鵧𪃎䳸𪄅𪈎𪊑麻䵖黹黾鼅鼏鼖鼻𪘀")]

end CachingProxy.VariantTable
