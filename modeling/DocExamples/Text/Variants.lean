namespace DocExamples.Text

/-- Marks with characters made of a letter and them, each followed by its letter. These tables are those of
version 14 of the Unicode standard. -/
def compositions : List (Nat × String) :=
  [(0x300, "ÀAÈEÌIÒOÙUàaèeìiòoùuǛÜǜüǸNǹnЀЕЍИѐеѝиḔĒḕēṐŌṑōẀWẁwẦÂầâẰĂằăỀÊềêỒÔồôỜƠ"),
    (0x300, "ờơỪƯừưỲYỳyἂἀἃἁἊἈἋἉἒἐἓἑἚἘἛἙἢἠἣἡἪἨἫἩἲἰἳἱἺἸἻἹὂὀὃὁὊὈὋὉὒὐὓὑὛὙὢὠὣὡὪὨὫὩὰα"),
    (0x300, "ὲεὴηὶιὸοὺυὼωᾺΑῈΕῊΗ῍᾿ῒϊῚΙ῝῾ῢϋῪΥ῭¨ῸΟῺΩ"),
    (0x301, "ÁAÉEÍIÓOÚUÝYáaéeíióoúuýyĆCćcĹLĺlŃNńnŔRŕrŚSśsŹZźzǗÜǘüǴGǵgǺÅǻåǼÆǽæǾØ"),
    (0x301, "ǿø΅¨ΆΑΈΕΉΗΊΙΌΟΎΥΏΩΐϊάαέεήηίιΰϋόούυώωϓϒЃГЌКѓгќкḈÇḉçḖĒḗēḮÏḯïḰKḱkḾMḿm"),
    (0x301, "ṌÕṍõṒŌṓōṔPṕpṸŨṹũẂWẃwẤÂấâẮĂắăẾÊếêỐÔốôỚƠớơỨƯứưἄἀἅἁἌἈἍἉἔἐἕἑἜἘἝἙἤἠἥἡἬἨ"),
    (0x301, "ἭἩἴἰἵἱἼἸἽἹὄὀὅὁὌὈὍὉὔὐὕὑὝὙὤὠὥὡὬὨὭὩ῎᾿῞῾"),
    (0x302, "ÂAÊEÎIÔOÛUâaêeîiôoûuĈCĉcĜGĝgĤHĥhĴJĵjŜSŝsŴWŵwŶYŷyẐZẑzẬẠậạỆẸệẹỘỌộọ"),
    (0x303, "ÃAÑNÕOãañnõoĨIĩiŨUũuṼVṽvẪÂẫâẴĂẵăẼEẽeỄÊễêỖÔỗôỠƠỡơỮƯữưỸYỹy"),
    (0x304, "ĀAāaĒEēeĪIīiŌOōoŪUūuǕÜǖüǞÄǟäǠȦǡȧǢÆǣæǬǪǭǫȪÖȫöȬÕȭõȰȮȱȯȲYȳyӢИӣиӮУӯуḠG"),
    (0x304, "ḡgḸḶḹḷṜṚṝṛᾱαᾹΑῑιῙΙῡυῩΥ"),
    (0x306, "ĂAăaĔEĕeĞGğgĬIĭiŎOŏoŬUŭuЎУЙИйиўуӁЖӂжӐАӑаӖЕӗеḜȨḝȩẶẠặạᾰαᾸΑῐιῘΙῠυῨΥ"),
    (0x307, "ĊCċcĖEėeĠGġgİIŻZżzȦAȧaȮOȯoḂBḃbḊDḋdḞFḟfḢHḣhṀMṁmṄNṅnṖPṗpṘRṙrṠSṡsṤŚṥś"),
    (0x307, "ṦŠṧšṨṢṩṣṪTṫtẆWẇwẊXẋxẎYẏyẛſ"),
    (0x308, "ÄAËEÏIÖOÜUäaëeïiöoüuÿyŸYΪΙΫΥϊιϋυϔϒЁЕЇІёеїіӒАӓаӚӘӛәӜЖӝжӞЗӟзӤИӥиӦОӧо"),
    (0x308, "ӪӨӫөӬЭӭэӰУӱуӴЧӵчӸЫӹыḦHḧhṎÕṏõṺŪṻūẄWẅwẌXẍxẗt"),
    (0x309, "ẢAảaẨÂẩâẲĂẳăẺEẻeỂÊểêỈIỉiỎOỏoỔÔổôỞƠởơỦUủuỬƯửưỶYỷy"), (0x30A, "ÅAåaŮUůuẘwẙy"),
    (0x30B, "ŐOőoŰUűuӲУӳу"),
    (0x30C, "ČCčcĎDďdĚEěeĽLľlŇNňnŘRřrŠSšsŤTťtŽZžzǍAǎaǏIǐiǑOǒoǓUǔuǙÜǚüǦGǧgǨKǩkǮƷ"),
    (0x30C, "ǯʒǰjȞHȟh"), (0x30F, "ȀAȁaȄEȅeȈIȉiȌOȍoȐRȑrȔUȕuѶѴѷѵ"),
    (0x311, "ȂAȃaȆEȇeȊIȋiȎOȏoȒRȓrȖUȗu"), (0x313, "ἀαἈΑἐεἘΕἠηἨΗἰιἸΙὀοὈΟὐυὠωὨΩῤρ"),
    (0x314, "ἁαἉΑἑεἙΕἡηἩΗἱιἹΙὁοὉΟὑυὙΥὡωὩΩῥρῬΡ"), (0x31B, "ƠOơoƯUưu"),
    (0x323, "ḄBḅbḌDḍdḤHḥhḲKḳkḶLḷlṂMṃmṆNṇnṚRṛrṢSṣsṬTṭtṾVṿvẈWẉwẒZẓzẠAạaẸEẹeỊIịiỌO"),
    (0x323, "ọoỢƠợơỤUụuỰƯựưỴYỵy"), (0x324, "ṲUṳu"), (0x325, "ḀAḁa"), (0x326, "ȘSșsȚTțt"),
    (0x327, "ÇCçcĢGģgĶKķkĻLļlŅNņnŖRŗrŞSşsŢTţtȨEȩeḐDḑdḨHḩh"), (0x328, "ĄAąaĘEęeĮIįiŲUųuǪOǫo"),
    (0x32D, "ḒDḓdḘEḙeḼLḽlṊNṋnṰTṱtṶUṷu"), (0x32E, "ḪHḫh"), (0x330, "ḚEḛeḬIḭiṴUṵu"),
    (0x331, "ḆBḇbḎDḏdḴKḵkḺLḻlṈNṉnṞRṟrṮTṯtẔZẕzẖh"),
    (0x338, "↚←↛→↮↔⇍⇐⇎⇔⇏⇒∄∃∉∈∌∋∤∣∦∥≁∼≄≃≇≅≉≈≠=≢≡≭≍≮<≯>≰≤≱≥≴≲≵≳≸≶≹≷⊀≺⊁≻⊄⊂⊅⊃⊈⊆⊉⊇⊬⊢"),
    (0x338, "⊭⊨⊮⊩⊯⊫⋠≼⋡≽⋢⊑⋣⊒⋪⊲⋫⊳⋬⊴⋭⊵"),
    (0x342, "ἆἀἇἁἎἈἏἉἦἠἧἡἮἨἯἩἶἰἷἱἾἸἿἹὖὐὗὑὟὙὦὠὧὡὮὨὯὩᾶα῁¨ῆη῏᾿ῖιῗϊ῟῾ῦυῧϋῶω"),
    (0x345, "ᾀἀᾁἁᾂἂᾃἃᾄἄᾅἅᾆἆᾇἇᾈἈᾉἉᾊἊᾋἋᾌἌᾍἍᾎἎᾏἏᾐἠᾑἡᾒἢᾓἣᾔἤᾕἥᾖἦᾗἧᾘἨᾙἩᾚἪᾛἫᾜἬᾝἭᾞἮᾟἯᾠὠ"),
    (0x345, "ᾡὡᾢὢᾣὣᾤὤᾥὥᾦὦᾧὧᾨὨᾩὩᾪὪᾫὫᾬὬᾭὭᾮὮᾯὯᾲὰᾳαᾴάᾷᾶᾼΑῂὴῃηῄήῇῆῌΗῲὼῳωῴώῷῶῼΩ"),
    (0x653, "\u0622\u0627"),
    (0x654, "\u0623\u0627\u0624\u0648\u0626\u064A\u06C0\u06D5\u06C2\u06C1"),
    (0x654, "\u06D3\u06D2"), (0x655, "\u0625\u0627"), (0x93C, "ऩनऱरऴळ"), (0x9BE, "\u09CB\u09C7"),
    (0x9D7, "\u09CC\u09C7"), (0xB3E, "\u0B4B\u0B47"), (0xB56, "\u0B48\u0B47"),
    (0xB57, "\u0B4C\u0B47"), (0xBBE, "\u0BCA\u0BC6\u0BCB\u0BC7"), (0xBD7, "ஔஒ\u0BCC\u0BC6"),
    (0xC56, "\u0C48\u0C46"), (0xCC2, "\u0CCA\u0CC6"),
    (0xCD5, "\u0CC0\u0CBF\u0CC7\u0CC6\u0CCB\u0CCA"), (0xCD6, "\u0CC8\u0CC6"),
    (0xD3E, "\u0D4A\u0D46\u0D4B\u0D47"), (0xD57, "\u0D4C\u0D46"),
    (0xDCA, "\u0DDA\u0DD9\u0DDD\u0DDC"), (0xDCF, "\u0DDC\u0DD9"), (0xDDF, "\u0DDE\u0DD9"),
    (0x102E, "ဦဥ"), (0x1B35, "ᬆᬅᬈᬇᬊᬉᬌᬋᬎᬍᬒᬑ\u1B3B\u1B3A\u1B3D\u1B3C\u1B40\u1B3E\u1B41\u1B3F"),
    (0x1B35, "\u1B43\u1B42"),
    (0x3099, "がかぎきぐくげけごこざさじしずすぜせぞそだたぢちづつでてどとばはびひぶふべへぼほゔうゞゝガカギキグクゲケゴコザサジシズスゼセゾソダタ"),
    (0x3099, "ヂチヅツデテドトバハビヒブフベヘボホヴウヷワヸヰヹヱヺヲヾヽ"), (0x309A, "ぱはぴひぷふぺへぽほパハピヒプフペヘポホ"),
    (0x110BA, "𑂚𑂙𑂜𑂛𑂫𑂥"), (0x11127, "𑄮𑄱𑄯𑄲"), (0x1133E, "𑍋𑍇"), (0x11357, "𑍌𑍇"), (0x114B0, "𑒼𑒹"),
    (0x114BA, "𑒻𑒹"), (0x114BD, "𑒾𑒹"), (0x115AF, "𑖺𑖸𑖻𑖹"), (0x11930, "𑤸𑤵")]

/-- Ranges of characters that are variants of one other each, with the others in order. -/
def letterVariants : List (Nat × Nat × String) :=
  [(0xA0, 0xA0, " "), (0xAA, 0xAA, "a"), (0xB2, 0xB3, "23"), (0xB5, 0xB5, "μ"), (0xB9, 0xBA, "1o"),
    (0x17F, 0x17F, "s"), (0x2B0, 0x2B8, "hɦjrɹɻʁwy"), (0x2E0, 0x2E4, "ɣlsxʕ"),
    (0x340, 0x341, "\u0300\u0301"), (0x343, 0x343, "\u0313"), (0x374, 0x374, "ʹ"),
    (0x37E, 0x37E, ";"), (0x387, 0x387, "·"), (0x3D0, 0x3D6, "βθΥΎΫφπ"), (0x3F0, 0x3F2, "κρς"),
    (0x3F4, 0x3F5, "Θε"), (0x3F9, 0x3F9, "Σ"), (0xF0C, 0xF0C, "་"), (0x10FC, 0x10FC, "ნ"),
    (0x1D2C, 0x1D2E, "AÆB"), (0x1D30, 0x1D3A, "DEƎGHIJKLMN"),
    (0x1D3C, 0x1D4D, "OȢPRTUWaɐɑᴂbdeəɛɜg"), (0x1D4F, 0x1D6A, "kmŋoɔᴖᴗptuᴝɯvᴥβγδφχiruvβγρφχ"),
    (0x1D78, 0x1D78, "н"), (0x1D9B, 0x1DBF, "ɒcɕðɜfɟɡɥɨɩɪᵻʝɭᶅʟɱɰɲɳɴɵɸʂʃƫʉʊᴜʋʌzʐʑʒθ"),
    (0x1E9B, 0x1E9B, "ṡ"), (0x1F71, 0x1F71, "ά"), (0x1F73, 0x1F73, "έ"), (0x1F75, 0x1F75, "ή"),
    (0x1F77, 0x1F77, "ί"), (0x1F79, 0x1F79, "ό"), (0x1F7B, 0x1F7B, "ύ"), (0x1F7D, 0x1F7D, "ώ"),
    (0x1FBB, 0x1FBB, "Ά"), (0x1FBE, 0x1FBE, "ι"), (0x1FC9, 0x1FC9, "Έ"), (0x1FCB, 0x1FCB, "Ή"),
    (0x1FD3, 0x1FD3, "ΐ"), (0x1FDB, 0x1FDB, "Ί"), (0x1FE3, 0x1FE3, "ΰ"), (0x1FEB, 0x1FEB, "Ύ"),
    (0x1FEF, 0x1FEF, "`"), (0x1FF9, 0x1FF9, "Ό"), (0x1FFB, 0x1FFB, "Ώ"),
    (0x2000, 0x200A, "           "), (0x2011, 0x2011, "‐"), (0x2024, 0x2024, "."),
    (0x202F, 0x202F, " "), (0x205F, 0x205F, " "), (0x2070, 0x2071, "0i"),
    (0x2074, 0x208E, "456789+−=()n0123456789+−=()"), (0x2090, 0x209C, "aeoxəhklmnpst"),
    (0x2102, 0x2102, "C"), (0x2107, 0x2107, "Ɛ"), (0x210A, 0x2113, "gHHHhħIILl"),
    (0x2115, 0x2115, "N"), (0x2119, 0x211D, "PQRRR"), (0x2124, 0x2124, "Z"), (0x2126, 0x2126, "Ω"),
    (0x2128, 0x2128, "Z"), (0x212A, 0x212D, "KÅBC"), (0x212F, 0x2131, "eEF"),
    (0x2133, 0x2139, "Mo\u05D0\u05D1\u05D2\u05D3i"), (0x213C, 0x2140, "πγΓΠ∑"),
    (0x2145, 0x2149, "Ddeij"), (0x2160, 0x2160, "I"), (0x2164, 0x2164, "V"), (0x2169, 0x2169, "X"),
    (0x216C, 0x2170, "LCDMi"), (0x2174, 0x2174, "v"), (0x2179, 0x2179, "x"),
    (0x217C, 0x217F, "lcdm"), (0x2329, 0x232A, "〈〉"), (0x2460, 0x2468, "123456789"),
    (0x24B6, 0x24EA, "ABCDEFGHIJKLMNOPQRSTUVWXYZabcdefghijklmnopqrstuvwxyz0"),
    (0x2C7C, 0x2C7D, "jV"), (0x2D6F, 0x2D6F, "ⵡ"), (0x2E9F, 0x2E9F, "母"), (0x2EF3, 0x2EF3, "龟"),
    (0x2F00, 0x2F41, "一丨丶丿乙亅二亠人儿入八冂冖冫几凵刀力勹匕匚匸十卜卩厂厶又口囗土士夂夊夕大女子宀寸小尢尸屮山巛工己巾干幺广廴廾弋弓彐彡彳心戈戶手支攴"),
    (0x2F42, 0x2F83, "文斗斤方无日曰月木欠止歹殳毋比毛氏气水火爪父爻爿片牙牛犬玄玉瓜瓦甘生用田疋疒癶白皮皿目矛矢石示禸禾穴立竹米糸缶网羊羽老而耒耳聿肉臣自"),
    (0x2F84, 0x2FC5, "至臼舌舛舟艮色艸虍虫血行衣襾見角言谷豆豕豸貝赤走足身車辛辰辵邑酉釆里金長門阜隶隹雨靑非面革韋韭音頁風飛食首香馬骨高髟鬥鬯鬲鬼魚鳥鹵鹿"),
    (0x2FC6, 0x2FD5, "麥麻黃黍黑黹黽鼎鼓鼠鼻齊齒龍龜龠"), (0x3000, 0x3000, " "), (0x3036, 0x3036, "〒"),
    (0x3038, 0x303A, "十卄卅"),
    (0x3131, 0x3172, "ᄀᄁᆪᄂᆬᆭᄃᄄᄅᆰᆱᆲᆳᆴᆵᄚᄆᄇᄈᄡᄉᄊᄋᄌᄍᄎᄏᄐᄑ하ᅢᅣᅤᅥᅦᅧᅨᅩᅪᅫᅬᅭᅮᅯᅰᅱᅲᅳᅴᅵᅠᄔᄕᇇᇈᇌᇎᇓᇗᇙᄜᇝᇟᄝᄞ"),
    (0x3173, 0x318E, "ᄠᄢᄣᄧᄩᄫᄬᄭᄮᄯᄲᄶᅀᅇᅌᇱᇲᅗᅘᅙᆄᆅᆈᆑᆒᆔᆞᆡ"), (0x3192, 0x319F, "一二三四上中下甲乙丙丁天地人"),
    (0x3244, 0x3247, "問幼文箏"), (0x3260, 0x327B, "ᄀᄂᄃᄅᄆᄇᄉᄋᄌᄎᄏᄐᄑᄒ가나다라마바사아자차카타파하"),
    (0x327E, 0x327E, "우"), (0x3280, 0x32B0, "一二三四五六七八九十月火水木金土日株有社名特財祝労秘男女適優印注項休写正上中下左右医宗学監企資協夜"),
    (0x32D0, 0x32FE, "アイウエオカキクケコサシスセソタチツテトナニヌネノハヒフヘホマミムメモヤユヨラリルレロワヰヱヲ"), (0xA69C, 0xA69D, "ъь"),
    (0xA770, 0xA770, "ꝯ"), (0xA7F2, 0xA7F4, "CFQ"), (0xA7F8, 0xA7F9, "Ħœ"),
    (0xAB5C, 0xAB5F, "ꜧꬷɫꭒ"), (0xAB69, 0xAB69, "ʍ"),
    (0xF900, 0xF941, "豈更車賈滑串句龜龜契金喇奈懶癩羅蘿螺裸邏樂洛烙珞落酪駱亂卵欄爛蘭鸞嵐濫藍襤拉臘蠟廊朗浪狼郎來冷勞擄櫓爐盧老蘆虜路露魯鷺碌祿綠菉錄鹿論"),
    (0xF942, 0xF983, "壟弄籠聾牢磊賂雷壘屢樓淚漏累縷陋勒肋凜凌稜綾菱陵讀拏樂諾丹寧怒率異北磻便復不泌數索參塞省葉說殺辰沈拾若掠略亮兩凉梁糧良諒量勵呂女廬旅"),
    (0xF984, 0xF9C5, "濾礪閭驪麗黎力曆歷轢年憐戀撚漣煉璉秊練聯輦蓮連鍊列劣咽烈裂說廉念捻殮簾獵令囹寧嶺怜玲瑩羚聆鈴零靈領例禮醴隸惡了僚寮尿料樂燎療蓼遼龍暈"),
    (0xF9C6, 0xFA07, "阮劉杻柳流溜琉留硫紐類六戮陸倫崙淪輪律慄栗率隆利吏履易李梨泥理痢罹裏裡里離匿溺吝燐璘藺隣鱗麟林淋臨立笠粒狀炙識什茶刺切度拓糖宅洞暴輻"),
    (0xFA08, 0xFA0D, "行降見廓兀嗀"), (0xFA10, 0xFA10, "塚"), (0xFA12, 0xFA12, "晴"),
    (0xFA15, 0xFA1E, "凞猪益礼神祥福靖精羽"), (0xFA20, 0xFA20, "蘒"), (0xFA22, 0xFA22, "諸"),
    (0xFA25, 0xFA26, "逸都"),
    (0xFA2A, 0xFA6B, "飯飼館鶴郞隷侮僧免勉勤卑喝嘆器塀墨層屮悔慨憎懲敏既暑梅海渚漢煮爫琢碑社祉祈祐祖祝禍禎穀突節練縉繁署者臭艹艹著褐視謁謹賓贈辶逸難響頻恵"),
    (0xFA6C, 0xFA6D, "𤋮舘"),
    (0xFA70, 0xFAB1, "並况全侀充冀勇勺喝啕喙嗢塚墳奄奔婢嬨廒廙彩徭惘慎愈憎慠懲戴揄搜摒敖晴朗望杖歹殺流滛滋漢瀞煮瞧爵犯猪瑱甆画瘝瘟益盛直睊着磌窱節类絛練缾"),
    (0xFAB2, 0xFAD9, "者荒華蝹襁覆視調諸請謁諾諭謹變贈輸遲醙鉶陼難靖韛響頋頻鬒龜𢡊𢡄𣏕㮝䀘䀹𥉉𥳐𧻓齃龎"),
    (0xFB20, 0xFB29, "\u05E2\u05D0\u05D3\u05D4\u05DB\u05DC\u05DD\u05E8\u05EA+"),
    (0xFB50, 0xFB5A, "\u0671\u0671\u067B\u067B\u067B\u067B\u067E\u067E\u067E\u067E\u0680"),
    (0xFB5B, 0xFB65, "\u0680\u0680\u0680\u067A\u067A\u067A\u067A\u067F\u067F\u067F\u067F"),
    (0xFB66, 0xFB70, "\u0679\u0679\u0679\u0679\u06A4\u06A4\u06A4\u06A4\u06A6\u06A6\u06A6"),
    (0xFB71, 0xFB7B, "\u06A6\u0684\u0684\u0684\u0684\u0683\u0683\u0683\u0683\u0686\u0686"),
    (0xFB7C, 0xFB86, "\u0686\u0686\u0687\u0687\u0687\u0687\u068D\u068D\u068C\u068C\u068E"),
    (0xFB87, 0xFB91, "\u068E\u0688\u0688\u0698\u0698\u0691\u0691\u06A9\u06A9\u06A9\u06A9"),
    (0xFB92, 0xFB9C, "\u06AF\u06AF\u06AF\u06AF\u06B3\u06B3\u06B3\u06B3\u06B1\u06B1\u06B1"),
    (0xFB9D, 0xFBA7, "\u06B1\u06BA\u06BA\u06BB\u06BB\u06BB\u06BB\u06C0\u06C0\u06C1\u06C1"),
    (0xFBA8, 0xFBB1, "\u06C1\u06C1\u06BE\u06BE\u06BE\u06BE\u06D2\u06D2\u06D3\u06D3"),
    (0xFBD3, 0xFBDC, "\u06AD\u06AD\u06AD\u06AD\u06C7\u06C7\u06C6\u06C6\u06C8\u06C8"),
    (0xFBDE, 0xFBE8, "\u06CB\u06CB\u06C5\u06C5\u06C9\u06C9\u06D0\u06D0\u06D0\u06D0\u0649"),
    (0xFBE9, 0xFBE9, "\u0649"), (0xFBFC, 0xFBFF, "\u06CC\u06CC\u06CC\u06CC"),
    (0xFE10, 0xFE18, ",、。:;!?〖〗"), (0xFE31, 0xFE44, "—–__()\x7b\x7d〔〕【】《》〈〉「」『』"),
    (0xFE47, 0xFE48, "[]"), (0xFE4D, 0xFE52, "___,、."),
    (0xFE54, 0xFE66, ";:?!—()\x7b\x7d〔〕#&*+-<>="), (0xFE68, 0xFE6B, "\\$%@"),
    (0xFE80, 0xFE8A, "\u0621\u0622\u0622\u0623\u0623\u0624\u0624\u0625\u0625\u0626\u0626"),
    (0xFE8B, 0xFE95, "\u0626\u0626\u0627\u0627\u0628\u0628\u0628\u0628\u0629\u0629\u062A"),
    (0xFE96, 0xFEA0, "\u062A\u062A\u062A\u062B\u062B\u062B\u062B\u062C\u062C\u062C\u062C"),
    (0xFEA1, 0xFEAB, "\u062D\u062D\u062D\u062D\u062E\u062E\u062E\u062E\u062F\u062F\u0630"),
    (0xFEAC, 0xFEB6, "\u0630\u0631\u0631\u0632\u0632\u0633\u0633\u0633\u0633\u0634\u0634"),
    (0xFEB7, 0xFEC1, "\u0634\u0634\u0635\u0635\u0635\u0635\u0636\u0636\u0636\u0636\u0637"),
    (0xFEC2, 0xFECC, "\u0637\u0637\u0637\u0638\u0638\u0638\u0638\u0639\u0639\u0639\u0639"),
    (0xFECD, 0xFED7, "\u063A\u063A\u063A\u063A\u0641\u0641\u0641\u0641\u0642\u0642\u0642"),
    (0xFED8, 0xFEE2, "\u0642\u0643\u0643\u0643\u0643\u0644\u0644\u0644\u0644\u0645\u0645"),
    (0xFEE3, 0xFEED, "\u0645\u0645\u0646\u0646\u0646\u0646\u0647\u0647\u0647\u0647\u0648"),
    (0xFEEE, 0xFEF4, "\u0648\u0649\u0649\u064A\u064A\u064A\u064A"),
    (0xFF01, 0xFF40, "!\"#$%&'()*+,-./0123456789:;<=>?@ABCDEFGHIJKLMNOPQRSTUVWXYZ[\\]^_`"),
    (0xFF41, 0xFF7C, "abcdefghijklmnopqrstuvwxyz\x7b|\x7d~⦅⦆。「」、・ヲァィゥェォャュョッーアイウエオカキクケコサシ"),
    (0xFF7D, 0xFFB4, "スセソタチツテトナニヌネノハヒフヘホマミムメモヤユヨラリルレロワン\u3099\u309Aᅠᄀᄁᆪᄂᆬᆭᄃᄄᄅᆰᆱᆲᆳᆴᆵᄚᄆᄇᄈᄡ"),
    (0xFFB5, 0xFFBE, "ᄉᄊᄋᄌᄍᄎᄏᄐᄑᄒ"), (0xFFC2, 0xFFC7, "ᅡᅢᅣᅤᅥᅦ"), (0xFFCA, 0xFFCF, "ᅧᅨᅩᅪᅫᅬ"),
    (0xFFD2, 0xFFD7, "ᅭᅮᅯᅰᅱᅲ"), (0xFFDA, 0xFFDC, "ᅳᅴᅵ"), (0xFFE0, 0xFFE2, "¢£¬"),
    (0xFFE4, 0xFFE6, "¦¥₩"), (0xFFE8, 0xFFEE, "│←↑→↓■○"), (0x10781, 0x10785, "ːˑæʙɓ"),
    (0x10787, 0x107B0, "ʣꭦʥʤɖɗᶑɘɞʩɤɢɠʛħʜɧʄʪʫɬ𝼄ꞎɮ𝼅ʎ𝼆øɶɷqɺ𝼈ɽɾʀʨʦꭧʧʈⱱ"),
    (0x107B2, 0x107BA, "ʏʡʢʘǀǁǂ𝼊𝼞"),
    (0x1D400, 0x1D441, "ABCDEFGHIJKLMNOPQRSTUVWXYZabcdefghijklmnopqrstuvwxyzABCDEFGHIJKLMN"),
    (0x1D442, 0x1D454, "OPQRSTUVWXYZabcdefg"),
    (0x1D456, 0x1D497, "ijklmnopqrstuvwxyzABCDEFGHIJKLMNOPQRSTUVWXYZabcdefghijklmnopqrstuv"),
    (0x1D498, 0x1D49C, "wxyzA"), (0x1D49E, 0x1D49F, "CD"), (0x1D4A2, 0x1D4A2, "G"),
    (0x1D4A5, 0x1D4A6, "JK"), (0x1D4A9, 0x1D4AC, "NOPQ"), (0x1D4AE, 0x1D4B9, "STUVWXYZabcd"),
    (0x1D4BB, 0x1D4BB, "f"), (0x1D4BD, 0x1D4C3, "hijklmn"),
    (0x1D4C5, 0x1D505, "pqrstuvwxyzABCDEFGHIJKLMNOPQRSTUVWXYZabcdefghijklmnopqrstuvwxyzAB"),
    (0x1D507, 0x1D50A, "DEFG"), (0x1D50D, 0x1D514, "JKLMNOPQ"), (0x1D516, 0x1D51C, "STUVWXY"),
    (0x1D51E, 0x1D539, "abcdefghijklmnopqrstuvwxyzAB"), (0x1D53B, 0x1D53E, "DEFG"),
    (0x1D540, 0x1D544, "IJKLM"), (0x1D546, 0x1D546, "O"), (0x1D54A, 0x1D550, "STUVWXY"),
    (0x1D552, 0x1D593, "abcdefghijklmnopqrstuvwxyzABCDEFGHIJKLMNOPQRSTUVWXYZabcdefghijklmn"),
    (0x1D594, 0x1D5D5, "opqrstuvwxyzABCDEFGHIJKLMNOPQRSTUVWXYZabcdefghijklmnopqrstuvwxyzAB"),
    (0x1D5D6, 0x1D617, "CDEFGHIJKLMNOPQRSTUVWXYZabcdefghijklmnopqrstuvwxyzABCDEFGHIJKLMNOP"),
    (0x1D618, 0x1D659, "QRSTUVWXYZabcdefghijklmnopqrstuvwxyzABCDEFGHIJKLMNOPQRSTUVWXYZabcd"),
    (0x1D65A, 0x1D69B, "efghijklmnopqrstuvwxyzABCDEFGHIJKLMNOPQRSTUVWXYZabcdefghijklmnopqr"),
    (0x1D69C, 0x1D6A5, "stuvwxyzıȷ"),
    (0x1D6A8, 0x1D6E9, "ΑΒΓΔΕΖΗΘΙΚΛΜΝΞΟΠΡΘΣΤΥΦΧΨΩ∇αβγδεζηθικλμνξοπρςστυφχψω∂εθκφρπΑΒΓΔΕΖΗΘ"),
    (0x1D6EA, 0x1D72B, "ΙΚΛΜΝΞΟΠΡΘΣΤΥΦΧΨΩ∇αβγδεζηθικλμνξοπρςστυφχψω∂εθκφρπΑΒΓΔΕΖΗΘΙΚΛΜΝΞΟΠ"),
    (0x1D72C, 0x1D76D, "ΡΘΣΤΥΦΧΨΩ∇αβγδεζηθικλμνξοπρςστυφχψω∂εθκφρπΑΒΓΔΕΖΗΘΙΚΛΜΝΞΟΠΡΘΣΤΥΦΧΨ"),
    (0x1D76E, 0x1D7AF, "Ω∇αβγδεζηθικλμνξοπρςστυφχψω∂εθκφρπΑΒΓΔΕΖΗΘΙΚΛΜΝΞΟΠΡΘΣΤΥΦΧΨΩ∇αβγδεζ"),
    (0x1D7B0, 0x1D7CB, "ηθικλμνξοπρςστυφχψω∂εθκφρπϜϝ"),
    (0x1D7CE, 0x1D7FF, "01234567890123456789012345678901234567890123456789"),
    (0x1EE00, 0x1EE03, "\u0627\u0628\u062C\u062F"),
    (0x1EE05, 0x1EE0F, "\u0648\u0632\u062D\u0637\u064A\u0643\u0644\u0645\u0646\u0633\u0639"),
    (0x1EE10, 0x1EE1A, "\u0641\u0635\u0642\u0631\u0634\u062A\u062B\u062E\u0630\u0636\u0638"),
    (0x1EE1B, 0x1EE1F, "\u063A\u066E\u06BA\u06A1\u066F"), (0x1EE21, 0x1EE22, "\u0628\u062C"),
    (0x1EE24, 0x1EE24, "\u0647"), (0x1EE27, 0x1EE27, "\u062D"),
    (0x1EE29, 0x1EE32, "\u064A\u0643\u0644\u0645\u0646\u0633\u0639\u0641\u0635\u0642"),
    (0x1EE34, 0x1EE37, "\u0634\u062A\u062B\u062E"), (0x1EE39, 0x1EE39, "\u0636"),
    (0x1EE3B, 0x1EE3B, "\u063A"), (0x1EE42, 0x1EE42, "\u062C"), (0x1EE47, 0x1EE47, "\u062D"),
    (0x1EE49, 0x1EE49, "\u064A"), (0x1EE4B, 0x1EE4B, "\u0644"),
    (0x1EE4D, 0x1EE4F, "\u0646\u0633\u0639"), (0x1EE51, 0x1EE52, "\u0635\u0642"),
    (0x1EE54, 0x1EE54, "\u0634"), (0x1EE57, 0x1EE57, "\u062E"), (0x1EE59, 0x1EE59, "\u0636"),
    (0x1EE5B, 0x1EE5B, "\u063A"), (0x1EE5D, 0x1EE5D, "\u06BA"), (0x1EE5F, 0x1EE5F, "\u066F"),
    (0x1EE61, 0x1EE62, "\u0628\u062C"), (0x1EE64, 0x1EE64, "\u0647"),
    (0x1EE67, 0x1EE6A, "\u062D\u0637\u064A\u0643"),
    (0x1EE6C, 0x1EE72, "\u0645\u0646\u0633\u0639\u0641\u0635\u0642"),
    (0x1EE74, 0x1EE77, "\u0634\u062A\u062B\u062E"), (0x1EE79, 0x1EE7C, "\u0636\u0638\u063A\u066E"),
    (0x1EE7E, 0x1EE7E, "\u06A1"),
    (0x1EE80, 0x1EE89, "\u0627\u0628\u062C\u062F\u0647\u0648\u0632\u062D\u0637\u064A"),
    (0x1EE8B, 0x1EE95, "\u0644\u0645\u0646\u0633\u0639\u0641\u0635\u0642\u0631\u0634\u062A"),
    (0x1EE96, 0x1EE9B, "\u062B\u062E\u0630\u0636\u0638\u063A"),
    (0x1EEA1, 0x1EEA3, "\u0628\u062C\u062F"), (0x1EEA5, 0x1EEA9, "\u0648\u0632\u062D\u0637\u064A"),
    (0x1EEAB, 0x1EEB5, "\u0644\u0645\u0646\u0633\u0639\u0641\u0635\u0642\u0631\u0634\u062A"),
    (0x1EEB6, 0x1EEBB, "\u062B\u062E\u0630\u0636\u0638\u063A"), (0x1F12B, 0x1F12C, "CR"),
    (0x1F130, 0x1F149, "ABCDEFGHIJKLMNOPQRSTUVWXYZ"), (0x1F202, 0x1F202, "サ"),
    (0x1F210, 0x1F23B, "手字双デ二多解天交映無料前後再新初終生販声吹演投捕一三遊左中右指走打禁空合満有月申割営配"), (0x1F250, 0x1F251, "得可"),
    (0x1FBF0, 0x1FBF9, "0123456789"),
    (0x2F800, 0x2F841, "丽丸乁𠄢你侮侻倂偺備僧像㒞𠘺免兔兤具𠔜㒹內再𠕋冗冤仌冬况𩇟凵刃㓟刻剆割剷㔕勇勉勤勺包匆北卉卑博即卽卿卿卿𠨬灰及叟𠭣叫叱吆咞吸呈周咢哶"),
    (0x2F842, 0x2F883, "唐啓啣善善喙喫喳嗂圖嘆圗噑噴切壮城埴堍型堲報墬𡓤売壷夆多夢奢𡚨𡛪姬娛娧姘婦㛮㛼嬈嬾嬾𡧈寃寘寧寳𡬘寿将当尢㞁屠屮峀岍𡷤嵃𡷦嵮嵫嵼巡巢㠯"),
    (0x2F884, 0x2F8C5, "巽帨帽幩㡢𢆃㡼庰庳庶廊𪎒廾𢌱𢌱舁弢弢㣇𣊸𦇚形彫㣣徚忍志忹悁㤺㤜悔𢛔惇慈慌慎慌慺憎憲憤憯懞懲懶成戛扝抱拔捐𢬌挽拼捨掃揤𢯱搢揅掩㨮摩摾撝"),
    (0x2F8C6, 0x2F907, "摷㩬敏敬𣀊旣書晉㬙暑㬈㫤冒冕最暜肭䏙朗望朡杞杓𣏃㭉柺枅桒梅𣑭梎栟椔㮝楂榣槪檨𣚣櫛㰘次𣢧歔㱎歲殟殺殻𣪍𡴋𣫺汎𣲼沿泍汧洖派海流浩浸涅𣴞洴"),
    (0x2F908, 0x2F949, "港湮㴳滋滇𣻑淹潮𣽞𣾎濆瀹瀞瀛㶖灊災灷炭𠔥煅𤉣熜𤎫爨爵牐𤘈犀犕𤜵𤠔獺王㺬玥㺸㺸瑇瑜瑱璅瓊㼛甤𤰶甾𤲒異𢆟瘐𤾡𤾸𥁄㿼䀈直𥃳𥃲𥄙𥄳眞真真睊䀹"),
    (0x2F94A, 0x2F98B, "瞋䁆䂖𥐝硎碌磌䃣𥘦祖𥚚𥛅福秫䄯穀穊穏𥥼𥪧𥪧竮䈂𥮫篆築䈧𥲀糒䊠糨糣紀𥾆絣䌁緇縂繅䌴𦈨𦉇䍙𦋙罺𦌾羕翺者𦓚𦔣聠𦖨聰𣍟䏕育脃䐋脾媵𦞧𦞵𣎓𣎜舁"),
    (0x2F98C, 0x2F9CD, "舄辞䑫芑芋芝劳花芳芽苦𦬼若茝荣莭茣莽菧著荓菊菌菜𦰶𦵫𦳕䔫蓱蓳蔖𧏊蕤𦼬䕝䕡𦾱𧃒䕫虐虜虧虩蚩蚈蜎蛢蝹蜨蝫螆䗗蟡蠁䗹衠衣𧙧裗裞䘵裺㒻𧢮𧥦䚾"),
    (0x2F9CE, 0x2FA0F, "䛇誠諭變豕𧲨貫賁贛起𧼯𠠄跋趼跰𠣞軔輸𨗒𨗭邔郱鄑𨜮鄛鈸鋗鋘鉼鏹鐕𨯺開䦕閷𨵷䧦雃嶲霣𩅅𩈚䩮䩶韠𩐊䪲𩒖頋頋頩𩖶飢䬳餩馧駂駾䯎𩬰鬒鱀鳽䳎䳭鵧"),
    (0x2FA10, 0x2FA1D, "𪃎䳸𪄅𪈎𪊑麻䵖黹黾鼅鼏鼖鼻𪘀")]

/-- Ranges of characters that are variants of several others each, with those in order and a low line
between the ones of neighbours. -/
def groupVariants : List (Nat × Nat × String) :=
  [(0xA8, 0xA8, " \u0308"), (0xAF, 0xAF, " \u0304"), (0xB4, 0xB4, " \u0301"),
    (0xB8, 0xB8, " \u0327"), (0xBC, 0xBE, "1⁄4_1⁄2_3⁄4"), (0x132, 0x133, "IJ_ij"),
    (0x13F, 0x140, "L·_l·"), (0x149, 0x149, "ʼn"), (0x1C4, 0x1CC, "DŽ_Dž_dž_LJ_Lj_lj_NJ_Nj_nj"),
    (0x1F1, 0x1F3, "DZ_Dz_dz"), (0x2D8, 0x2DD, " \u0306_ \u0307_ \u030A_ \u0328_ \u0303_ \u030B"),
    (0x344, 0x344, "\u0308\u0301"), (0x37A, 0x37A, " \u0345"),
    (0x384, 0x385, " \u0301_ \u0308\u0301"), (0x587, 0x587, "եւ"),
    (0x675, 0x678, "\u0627\u0674_\u0648\u0674_\u06C7\u0674_\u064A\u0674"),
    (0x958, 0x95F, "क\u093C_ख\u093C_ग\u093C_ज\u093C_ड\u093C_ढ\u093C_फ\u093C_य\u093C"),
    (0x9DC, 0x9DD, "ড\u09BC_ঢ\u09BC"), (0x9DF, 0x9DF, "য\u09BC"), (0xA33, 0xA33, "ਲ\u0A3C"),
    (0xA36, 0xA36, "ਸ\u0A3C"), (0xA59, 0xA5B, "ਖ\u0A3C_ਗ\u0A3C_ਜ\u0A3C"), (0xA5E, 0xA5E, "ਫ\u0A3C"),
    (0xB5C, 0xB5D, "ଡ\u0B3C_ଢ\u0B3C"), (0xE33, 0xE33, "\u0E4Dา"), (0xEB3, 0xEB3, "\u0ECDາ"),
    (0xEDC, 0xEDD, "ຫນ_ຫມ"), (0xF43, 0xF43, "ག\u0FB7"), (0xF4D, 0xF4D, "ཌ\u0FB7"),
    (0xF52, 0xF52, "ད\u0FB7"), (0xF57, 0xF57, "བ\u0FB7"), (0xF5C, 0xF5C, "ཛ\u0FB7"),
    (0xF69, 0xF69, "ཀ\u0FB5"), (0xF73, 0xF73, "\u0F71\u0F72"),
    (0xF75, 0xF78, "\u0F71\u0F74_\u0FB2\u0F80_\u0FB2\u0F71\u0F80_\u0FB3\u0F80"),
    (0xF79, 0xF79, "\u0FB3\u0F71\u0F80"), (0xF81, 0xF81, "\u0F71\u0F80"),
    (0xF93, 0xF93, "\u0F92\u0FB7"), (0xF9D, 0xF9D, "\u0F9C\u0FB7"), (0xFA2, 0xFA2, "\u0FA1\u0FB7"),
    (0xFA7, 0xFA7, "\u0FA6\u0FB7"), (0xFAC, 0xFAC, "\u0FAB\u0FB7"), (0xFB9, 0xFB9, "\u0F90\u0FB5"),
    (0x1E9A, 0x1E9A, "aʾ"), (0x1FBD, 0x1FBD, " \u0313"),
    (0x1FBF, 0x1FC1, " \u0313_ \u0342_ \u0308\u0342"),
    (0x1FCD, 0x1FCF, " \u0313\u0300_ \u0313\u0301_ \u0313\u0342"),
    (0x1FDD, 0x1FDF, " \u0314\u0300_ \u0314\u0301_ \u0314\u0342"),
    (0x1FED, 0x1FEE, " \u0308\u0300_ \u0308\u0301"), (0x1FFD, 0x1FFE, " \u0301_ \u0314"),
    (0x2017, 0x2017, " \u0333"), (0x2025, 0x2026, ".._..."), (0x2033, 0x2034, "′′_′′′"),
    (0x2036, 0x2037, "‵‵_‵‵‵"), (0x203C, 0x203C, "!!"), (0x203E, 0x203E, " \u0305"),
    (0x2047, 0x2049, "??_?!_!?"), (0x2057, 0x2057, "′′′′"), (0x20A8, 0x20A8, "Rs"),
    (0x2100, 0x2101, "a/c_a/s"), (0x2103, 0x2103, "°C"), (0x2105, 0x2106, "c/o_c/u"),
    (0x2109, 0x2109, "°F"), (0x2116, 0x2116, "No"), (0x2120, 0x2122, "SM_TEL_TM"),
    (0x213B, 0x213B, "FAX"),
    (0x2150, 0x215F, "1⁄7_1⁄9_1⁄10_1⁄3_2⁄3_1⁄5_2⁄5_3⁄5_4⁄5_1⁄6_5⁄6_1⁄8_3⁄8_5⁄8_7⁄8_1⁄"),
    (0x2161, 0x2163, "II_III_IV"), (0x2165, 0x2168, "VI_VII_VIII_IX"), (0x216A, 0x216B, "XI_XII"),
    (0x2171, 0x2173, "ii_iii_iv"), (0x2175, 0x2178, "vi_vii_viii_ix"), (0x217A, 0x217B, "xi_xii"),
    (0x2189, 0x2189, "0⁄3"), (0x222C, 0x222D, "∫∫_∫∫∫"), (0x222F, 0x2230, "∮∮_∮∮∮"),
    (0x2469, 0x247B, "10_11_12_13_14_15_16_17_18_19_20_(1)_(2)_(3)_(4)_(5)_(6)_(7)_(8)"),
    (0x247C, 0x2489, "(9)_(10)_(11)_(12)_(13)_(14)_(15)_(16)_(17)_(18)_(19)_(20)_1._2."),
    (0x248A, 0x249B, "3._4._5._6._7._8._9._10._11._12._13._14._15._16._17._18._19._20."),
    (0x249C, 0x24AB, "(a)_(b)_(c)_(d)_(e)_(f)_(g)_(h)_(i)_(j)_(k)_(l)_(m)_(n)_(o)_(p)"),
    (0x24AC, 0x24B5, "(q)_(r)_(s)_(t)_(u)_(v)_(w)_(x)_(y)_(z)"), (0x2A0C, 0x2A0C, "∫∫∫∫"),
    (0x2A74, 0x2A76, "::=_==_==="), (0x2ADC, 0x2ADC, "⫝\u0338"),
    (0x309B, 0x309C, " \u3099_ \u309A"), (0x309F, 0x309F, "より"), (0x30FF, 0x30FF, "コト"),
    (0x3200, 0x320F, "(ᄀ)_(ᄂ)_(ᄃ)_(ᄅ)_(ᄆ)_(ᄇ)_(ᄉ)_(ᄋ)_(ᄌ)_(ᄎ)_(ᄏ)_(ᄐ)_(ᄑ)_(ᄒ)_(가)_(나)"),
    (0x3210, 0x321E, "(다)_(라)_(마)_(바)_(사)_(아)_(자)_(차)_(카)_(타)_(파)_(하)_(주)_(오전)_(오후)"),
    (0x3220, 0x322F, "(一)_(二)_(三)_(四)_(五)_(六)_(七)_(八)_(九)_(十)_(月)_(火)_(水)_(木)_(金)_(土)"),
    (0x3230, 0x323F, "(日)_(株)_(有)_(社)_(名)_(特)_(財)_(祝)_(労)_(代)_(呼)_(学)_(監)_(企)_(資)_(協)"),
    (0x3240, 0x3243, "(祭)_(休)_(自)_(至)"),
    (0x3250, 0x325F, "PTE_21_22_23_24_25_26_27_28_29_30_31_32_33_34_35"), (0x327C, 0x327D, "참고_주의"),
    (0x32B1, 0x32C6, "36_37_38_39_40_41_42_43_44_45_46_47_48_49_50_1月_2月_3月_4月_5月_6月_7月"),
    (0x32C7, 0x32CF, "8月_9月_10月_11月_12月_Hg_erg_eV_LTD"),
    (0x32FF, 0x330C, "令和_アパート_アルファ_アンペア_アール_イニング_インチ_ウォン_エスクード_エーカー_オンス_オーム_カイリ_カラット"),
    (0x330D, 0x3319, "カロリー_ガロン_ガンマ_ギガ_ギニー_キュリー_ギルダー_キロ_キログラム_キロメートル_キロワット_グラム_グラムトン"),
    (0x331A, 0x3328, "クルゼイロ_クローネ_ケース_コルナ_コーポ_サイクル_サンチーム_シリング_センチ_セント_ダース_デシ_ドル_トン_ナノ"),
    (0x3329, 0x3336, "ノット_ハイツ_パーセント_パーツ_バーレル_ピアストル_ピクル_ピコ_ビル_ファラッド_フィート_ブッシェル_フラン_ヘクタール"),
    (0x3337, 0x3346, "ペソ_ペニヒ_ヘルツ_ペンス_ページ_ベータ_ポイント_ボルト_ホン_ポンド_ホール_ホーン_マイクロ_マイル_マッハ_マルク"),
    (0x3347, 0x3355, "マンション_ミクロン_ミリ_ミリバール_メガ_メガトン_メートル_ヤード_ヤール_ユアン_リットル_リラ_ルピー_ルーブル_レム"),
    (0x3356, 0x3367, "レントゲン_ワット_0点_1点_2点_3点_4点_5点_6点_7点_8点_9点_10点_11点_12点_13点_14点_15点"),
    (0x3368, 0x3378, "16点_17点_18点_19点_20点_21点_22点_23点_24点_hPa_da_AU_bar_oV_pc_dm_dm2"),
    (0x3379, 0x338C, "dm3_IU_平成_昭和_大正_明治_株式会社_pA_nA_μA_mA_kA_KB_MB_GB_cal_kcal_pF_nF_μF"),
    (0x338D, 0x33A0, "μg_mg_kg_Hz_kHz_MHz_GHz_THz_μl_ml_dl_kl_fm_nm_μm_mm_cm_km_mm2_cm2"),
    (0x33A1, 0x33B0, "m2_km2_mm3_cm3_m3_km3_m∕s_m∕s2_Pa_kPa_MPa_GPa_rad_rad∕s_rad∕s2_ps"),
    (0x33B1, 0x33C5, "ns_μs_ms_pV_nV_μV_mV_kV_MV_pW_nW_μW_mW_kW_MW_kΩ_MΩ_a.m._Bq_cc_cd"),
    (0x33C6, 0x33D8, "C∕kg_Co._dB_Gy_ha_HP_in_KK_KM_kt_lm_ln_log_lx_mb_mil_mol_PH_p.m."),
    (0x33D9, 0x33EB, "PPM_PR_sr_Sv_Wb_V∕m_A∕m_1日_2日_3日_4日_5日_6日_7日_8日_9日_10日_11日_12日"),
    (0x33EC, 0x33FB, "13日_14日_15日_16日_17日_18日_19日_20日_21日_22日_23日_24日_25日_26日_27日_28日"),
    (0x33FC, 0x33FF, "29日_30日_31日_gal"), (0xFB00, 0xFB06, "ff_fi_fl_ffi_ffl_st_st"),
    (0xFB13, 0xFB17, "մն_մե_մի_վն_մխ"), (0xFB1D, 0xFB1D, "\u05D9\u05B4"),
    (0xFB1F, 0xFB1F, "\u05F2\u05B7"),
    (0xFB2A, 0xFB2D, "\u05E9\u05C1_\u05E9\u05C2_\u05E9\u05BC\u05C1_\u05E9\u05BC\u05C2"),
    (0xFB2E, 0xFB32, "\u05D0\u05B7_\u05D0\u05B8_\u05D0\u05BC_\u05D1\u05BC_\u05D2\u05BC"),
    (0xFB33, 0xFB36, "\u05D3\u05BC_\u05D4\u05BC_\u05D5\u05BC_\u05D6\u05BC"),
    (0xFB38, 0xFB3C, "\u05D8\u05BC_\u05D9\u05BC_\u05DA\u05BC_\u05DB\u05BC_\u05DC\u05BC"),
    (0xFB3E, 0xFB3E, "\u05DE\u05BC"), (0xFB40, 0xFB41, "\u05E0\u05BC_\u05E1\u05BC"),
    (0xFB43, 0xFB44, "\u05E3\u05BC_\u05E4\u05BC"),
    (0xFB46, 0xFB4A, "\u05E6\u05BC_\u05E7\u05BC_\u05E8\u05BC_\u05E9\u05BC_\u05EA\u05BC"),
    (0xFB4B, 0xFB4F, "\u05D5\u05B9_\u05D1\u05BF_\u05DB\u05BF_\u05E4\u05BF_\u05D0\u05DC"),
    (0xFBDD, 0xFBDD, "\u06C7\u0674"),
    (0xFBEA, 0xFBEE, "\u0626\u0627_\u0626\u0627_\u0626\u06D5_\u0626\u06D5_\u0626\u0648"),
    (0xFBEF, 0xFBF3, "\u0626\u0648_\u0626\u06C7_\u0626\u06C7_\u0626\u06C6_\u0626\u06C6"),
    (0xFBF4, 0xFBF8, "\u0626\u06C8_\u0626\u06C8_\u0626\u06D0_\u0626\u06D0_\u0626\u06D0"),
    (0xFBF9, 0xFBFB, "\u0626\u0649_\u0626\u0649_\u0626\u0649"),
    (0xFC00, 0xFC04, "\u0626\u062C_\u0626\u062D_\u0626\u0645_\u0626\u0649_\u0626\u064A"),
    (0xFC05, 0xFC09, "\u0628\u062C_\u0628\u062D_\u0628\u062E_\u0628\u0645_\u0628\u0649"),
    (0xFC0A, 0xFC0E, "\u0628\u064A_\u062A\u062C_\u062A\u062D_\u062A\u062E_\u062A\u0645"),
    (0xFC0F, 0xFC13, "\u062A\u0649_\u062A\u064A_\u062B\u062C_\u062B\u0645_\u062B\u0649"),
    (0xFC14, 0xFC18, "\u062B\u064A_\u062C\u062D_\u062C\u0645_\u062D\u062C_\u062D\u0645"),
    (0xFC19, 0xFC1D, "\u062E\u062C_\u062E\u062D_\u062E\u0645_\u0633\u062C_\u0633\u062D"),
    (0xFC1E, 0xFC22, "\u0633\u062E_\u0633\u0645_\u0635\u062D_\u0635\u0645_\u0636\u062C"),
    (0xFC23, 0xFC27, "\u0636\u062D_\u0636\u062E_\u0636\u0645_\u0637\u062D_\u0637\u0645"),
    (0xFC28, 0xFC2C, "\u0638\u0645_\u0639\u062C_\u0639\u0645_\u063A\u062C_\u063A\u0645"),
    (0xFC2D, 0xFC31, "\u0641\u062C_\u0641\u062D_\u0641\u062E_\u0641\u0645_\u0641\u0649"),
    (0xFC32, 0xFC36, "\u0641\u064A_\u0642\u062D_\u0642\u0645_\u0642\u0649_\u0642\u064A"),
    (0xFC37, 0xFC3B, "\u0643\u0627_\u0643\u062C_\u0643\u062D_\u0643\u062E_\u0643\u0644"),
    (0xFC3C, 0xFC40, "\u0643\u0645_\u0643\u0649_\u0643\u064A_\u0644\u062C_\u0644\u062D"),
    (0xFC41, 0xFC45, "\u0644\u062E_\u0644\u0645_\u0644\u0649_\u0644\u064A_\u0645\u062C"),
    (0xFC46, 0xFC4A, "\u0645\u062D_\u0645\u062E_\u0645\u0645_\u0645\u0649_\u0645\u064A"),
    (0xFC4B, 0xFC4F, "\u0646\u062C_\u0646\u062D_\u0646\u062E_\u0646\u0645_\u0646\u0649"),
    (0xFC50, 0xFC54, "\u0646\u064A_\u0647\u062C_\u0647\u0645_\u0647\u0649_\u0647\u064A"),
    (0xFC55, 0xFC59, "\u064A\u062C_\u064A\u062D_\u064A\u062E_\u064A\u0645_\u064A\u0649"),
    (0xFC5A, 0xFC5E, "\u064A\u064A_\u0630\u0670_\u0631\u0670_\u0649\u0670_ \u064C\u0651"),
    (0xFC5F, 0xFC62, " \u064D\u0651_ \u064E\u0651_ \u064F\u0651_ \u0650\u0651"),
    (0xFC63, 0xFC67, " \u0651\u0670_\u0626\u0631_\u0626\u0632_\u0626\u0645_\u0626\u0646"),
    (0xFC68, 0xFC6C, "\u0626\u0649_\u0626\u064A_\u0628\u0631_\u0628\u0632_\u0628\u0645"),
    (0xFC6D, 0xFC71, "\u0628\u0646_\u0628\u0649_\u0628\u064A_\u062A\u0631_\u062A\u0632"),
    (0xFC72, 0xFC76, "\u062A\u0645_\u062A\u0646_\u062A\u0649_\u062A\u064A_\u062B\u0631"),
    (0xFC77, 0xFC7B, "\u062B\u0632_\u062B\u0645_\u062B\u0646_\u062B\u0649_\u062B\u064A"),
    (0xFC7C, 0xFC80, "\u0641\u0649_\u0641\u064A_\u0642\u0649_\u0642\u064A_\u0643\u0627"),
    (0xFC81, 0xFC85, "\u0643\u0644_\u0643\u0645_\u0643\u0649_\u0643\u064A_\u0644\u0645"),
    (0xFC86, 0xFC8A, "\u0644\u0649_\u0644\u064A_\u0645\u0627_\u0645\u0645_\u0646\u0631"),
    (0xFC8B, 0xFC8F, "\u0646\u0632_\u0646\u0645_\u0646\u0646_\u0646\u0649_\u0646\u064A"),
    (0xFC90, 0xFC94, "\u0649\u0670_\u064A\u0631_\u064A\u0632_\u064A\u0645_\u064A\u0646"),
    (0xFC95, 0xFC99, "\u064A\u0649_\u064A\u064A_\u0626\u062C_\u0626\u062D_\u0626\u062E"),
    (0xFC9A, 0xFC9E, "\u0626\u0645_\u0626\u0647_\u0628\u062C_\u0628\u062D_\u0628\u062E"),
    (0xFC9F, 0xFCA3, "\u0628\u0645_\u0628\u0647_\u062A\u062C_\u062A\u062D_\u062A\u062E"),
    (0xFCA4, 0xFCA8, "\u062A\u0645_\u062A\u0647_\u062B\u0645_\u062C\u062D_\u062C\u0645"),
    (0xFCA9, 0xFCAD, "\u062D\u062C_\u062D\u0645_\u062E\u062C_\u062E\u0645_\u0633\u062C"),
    (0xFCAE, 0xFCB2, "\u0633\u062D_\u0633\u062E_\u0633\u0645_\u0635\u062D_\u0635\u062E"),
    (0xFCB3, 0xFCB7, "\u0635\u0645_\u0636\u062C_\u0636\u062D_\u0636\u062E_\u0636\u0645"),
    (0xFCB8, 0xFCBC, "\u0637\u062D_\u0638\u0645_\u0639\u062C_\u0639\u0645_\u063A\u062C"),
    (0xFCBD, 0xFCC1, "\u063A\u0645_\u0641\u062C_\u0641\u062D_\u0641\u062E_\u0641\u0645"),
    (0xFCC2, 0xFCC6, "\u0642\u062D_\u0642\u0645_\u0643\u062C_\u0643\u062D_\u0643\u062E"),
    (0xFCC7, 0xFCCB, "\u0643\u0644_\u0643\u0645_\u0644\u062C_\u0644\u062D_\u0644\u062E"),
    (0xFCCC, 0xFCD0, "\u0644\u0645_\u0644\u0647_\u0645\u062C_\u0645\u062D_\u0645\u062E"),
    (0xFCD1, 0xFCD5, "\u0645\u0645_\u0646\u062C_\u0646\u062D_\u0646\u062E_\u0646\u0645"),
    (0xFCD6, 0xFCDA, "\u0646\u0647_\u0647\u062C_\u0647\u0645_\u0647\u0670_\u064A\u062C"),
    (0xFCDB, 0xFCDF, "\u064A\u062D_\u064A\u062E_\u064A\u0645_\u064A\u0647_\u0626\u0645"),
    (0xFCE0, 0xFCE4, "\u0626\u0647_\u0628\u0645_\u0628\u0647_\u062A\u0645_\u062A\u0647"),
    (0xFCE5, 0xFCE9, "\u062B\u0645_\u062B\u0647_\u0633\u0645_\u0633\u0647_\u0634\u0645"),
    (0xFCEA, 0xFCEE, "\u0634\u0647_\u0643\u0644_\u0643\u0645_\u0644\u0645_\u0646\u0645"),
    (0xFCEF, 0xFCF2, "\u0646\u0647_\u064A\u0645_\u064A\u0647_\u0640\u064E\u0651"),
    (0xFCF3, 0xFCF6, "\u0640\u064F\u0651_\u0640\u0650\u0651_\u0637\u0649_\u0637\u064A"),
    (0xFCF7, 0xFCFB, "\u0639\u0649_\u0639\u064A_\u063A\u0649_\u063A\u064A_\u0633\u0649"),
    (0xFCFC, 0xFD00, "\u0633\u064A_\u0634\u0649_\u0634\u064A_\u062D\u0649_\u062D\u064A"),
    (0xFD01, 0xFD05, "\u062C\u0649_\u062C\u064A_\u062E\u0649_\u062E\u064A_\u0635\u0649"),
    (0xFD06, 0xFD0A, "\u0635\u064A_\u0636\u0649_\u0636\u064A_\u0634\u062C_\u0634\u062D"),
    (0xFD0B, 0xFD0F, "\u0634\u062E_\u0634\u0645_\u0634\u0631_\u0633\u0631_\u0635\u0631"),
    (0xFD10, 0xFD14, "\u0636\u0631_\u0637\u0649_\u0637\u064A_\u0639\u0649_\u0639\u064A"),
    (0xFD15, 0xFD19, "\u063A\u0649_\u063A\u064A_\u0633\u0649_\u0633\u064A_\u0634\u0649"),
    (0xFD1A, 0xFD1E, "\u0634\u064A_\u062D\u0649_\u062D\u064A_\u062C\u0649_\u062C\u064A"),
    (0xFD1F, 0xFD23, "\u062E\u0649_\u062E\u064A_\u0635\u0649_\u0635\u064A_\u0636\u0649"),
    (0xFD24, 0xFD28, "\u0636\u064A_\u0634\u062C_\u0634\u062D_\u0634\u062E_\u0634\u0645"),
    (0xFD29, 0xFD2D, "\u0634\u0631_\u0633\u0631_\u0635\u0631_\u0636\u0631_\u0634\u062C"),
    (0xFD2E, 0xFD32, "\u0634\u062D_\u0634\u062E_\u0634\u0645_\u0633\u0647_\u0634\u0647"),
    (0xFD33, 0xFD37, "\u0637\u0645_\u0633\u062C_\u0633\u062D_\u0633\u062E_\u0634\u062C"),
    (0xFD38, 0xFD3C, "\u0634\u062D_\u0634\u062E_\u0637\u0645_\u0638\u0645_\u0627\u064B"),
    (0xFD3D, 0xFD3D, "\u0627\u064B"),
    (0xFD50, 0xFD52, "\u062A\u062C\u0645_\u062A\u062D\u062C_\u062A\u062D\u062C"),
    (0xFD53, 0xFD55, "\u062A\u062D\u0645_\u062A\u062E\u0645_\u062A\u0645\u062C"),
    (0xFD56, 0xFD58, "\u062A\u0645\u062D_\u062A\u0645\u062E_\u062C\u0645\u062D"),
    (0xFD59, 0xFD5B, "\u062C\u0645\u062D_\u062D\u0645\u064A_\u062D\u0645\u0649"),
    (0xFD5C, 0xFD5E, "\u0633\u062D\u062C_\u0633\u062C\u062D_\u0633\u062C\u0649"),
    (0xFD5F, 0xFD61, "\u0633\u0645\u062D_\u0633\u0645\u062D_\u0633\u0645\u062C"),
    (0xFD62, 0xFD64, "\u0633\u0645\u0645_\u0633\u0645\u0645_\u0635\u062D\u062D"),
    (0xFD65, 0xFD67, "\u0635\u062D\u062D_\u0635\u0645\u0645_\u0634\u062D\u0645"),
    (0xFD68, 0xFD6A, "\u0634\u062D\u0645_\u0634\u062C\u064A_\u0634\u0645\u062E"),
    (0xFD6B, 0xFD6D, "\u0634\u0645\u062E_\u0634\u0645\u0645_\u0634\u0645\u0645"),
    (0xFD6E, 0xFD70, "\u0636\u062D\u0649_\u0636\u062E\u0645_\u0636\u062E\u0645"),
    (0xFD71, 0xFD73, "\u0637\u0645\u062D_\u0637\u0645\u062D_\u0637\u0645\u0645"),
    (0xFD74, 0xFD76, "\u0637\u0645\u064A_\u0639\u062C\u0645_\u0639\u0645\u0645"),
    (0xFD77, 0xFD79, "\u0639\u0645\u0645_\u0639\u0645\u0649_\u063A\u0645\u0645"),
    (0xFD7A, 0xFD7C, "\u063A\u0645\u064A_\u063A\u0645\u0649_\u0641\u062E\u0645"),
    (0xFD7D, 0xFD7F, "\u0641\u062E\u0645_\u0642\u0645\u062D_\u0642\u0645\u0645"),
    (0xFD80, 0xFD82, "\u0644\u062D\u0645_\u0644\u062D\u064A_\u0644\u062D\u0649"),
    (0xFD83, 0xFD85, "\u0644\u062C\u062C_\u0644\u062C\u062C_\u0644\u062E\u0645"),
    (0xFD86, 0xFD88, "\u0644\u062E\u0645_\u0644\u0645\u062D_\u0644\u0645\u062D"),
    (0xFD89, 0xFD8B, "\u0645\u062D\u062C_\u0645\u062D\u0645_\u0645\u062D\u064A"),
    (0xFD8C, 0xFD8E, "\u0645\u062C\u062D_\u0645\u062C\u0645_\u0645\u062E\u062C"),
    (0xFD8F, 0xFD8F, "\u0645\u062E\u0645"),
    (0xFD92, 0xFD94, "\u0645\u062C\u062E_\u0647\u0645\u062C_\u0647\u0645\u0645"),
    (0xFD95, 0xFD97, "\u0646\u062D\u0645_\u0646\u062D\u0649_\u0646\u062C\u0645"),
    (0xFD98, 0xFD9A, "\u0646\u062C\u0645_\u0646\u062C\u0649_\u0646\u0645\u064A"),
    (0xFD9B, 0xFD9D, "\u0646\u0645\u0649_\u064A\u0645\u0645_\u064A\u0645\u0645"),
    (0xFD9E, 0xFDA0, "\u0628\u062E\u064A_\u062A\u062C\u064A_\u062A\u062C\u0649"),
    (0xFDA1, 0xFDA3, "\u062A\u062E\u064A_\u062A\u062E\u0649_\u062A\u0645\u064A"),
    (0xFDA4, 0xFDA6, "\u062A\u0645\u0649_\u062C\u0645\u064A_\u062C\u062D\u0649"),
    (0xFDA7, 0xFDA9, "\u062C\u0645\u0649_\u0633\u062E\u0649_\u0635\u062D\u064A"),
    (0xFDAA, 0xFDAC, "\u0634\u062D\u064A_\u0636\u062D\u064A_\u0644\u062C\u064A"),
    (0xFDAD, 0xFDAF, "\u0644\u0645\u064A_\u064A\u062D\u064A_\u064A\u062C\u064A"),
    (0xFDB0, 0xFDB2, "\u064A\u0645\u064A_\u0645\u0645\u064A_\u0642\u0645\u064A"),
    (0xFDB3, 0xFDB5, "\u0646\u062D\u064A_\u0642\u0645\u062D_\u0644\u062D\u0645"),
    (0xFDB6, 0xFDB8, "\u0639\u0645\u064A_\u0643\u0645\u064A_\u0646\u062C\u062D"),
    (0xFDB9, 0xFDBB, "\u0645\u062E\u064A_\u0644\u062C\u0645_\u0643\u0645\u0645"),
    (0xFDBC, 0xFDBE, "\u0644\u062C\u0645_\u0646\u062C\u062D_\u062C\u062D\u064A"),
    (0xFDBF, 0xFDC1, "\u062D\u062C\u064A_\u0645\u062C\u064A_\u0641\u0645\u064A"),
    (0xFDC2, 0xFDC4, "\u0628\u062D\u064A_\u0643\u0645\u0645_\u0639\u062C\u0645"),
    (0xFDC5, 0xFDC7, "\u0635\u0645\u0645_\u0633\u062E\u064A_\u0646\u062C\u064A"),
    (0xFDF0, 0xFDF2, "\u0635\u0644\u06D2_\u0642\u0644\u06D2_\u0627\u0644\u0644\u0647"),
    (0xFDF3, 0xFDF4, "\u0627\u0643\u0628\u0631_\u0645\u062D\u0645\u062F"),
    (0xFDF5, 0xFDF6, "\u0635\u0644\u0639\u0645_\u0631\u0633\u0648\u0644"),
    (0xFDF7, 0xFDF8, "\u0639\u0644\u064A\u0647_\u0648\u0633\u0644\u0645"),
    (0xFDF9, 0xFDF9, "\u0635\u0644\u0649"),
    (0xFDFA, 0xFDFA, "\u0635\u0644\u0649 \u0627\u0644\u0644\u0647 \u0639\u0644\u064A\u0647 \u0648\u0633\u0644\u0645"),
    (0xFDFB, 0xFDFB, "\u062C\u0644 \u062C\u0644\u0627\u0644\u0647"),
    (0xFDFC, 0xFDFC, "\u0631\u06CC\u0627\u0644"), (0xFE19, 0xFE19, "..."), (0xFE30, 0xFE30, ".."),
    (0xFE49, 0xFE4C, " \u0305_ \u0305_ \u0305_ \u0305"),
    (0xFE70, 0xFE72, " \u064B_\u0640\u064B_ \u064C"), (0xFE74, 0xFE74, " \u064D"),
    (0xFE76, 0xFE7B, " \u064E_\u0640\u064E_ \u064F_\u0640\u064F_ \u0650_\u0640\u0650"),
    (0xFE7C, 0xFE7F, " \u0651_\u0640\u0651_ \u0652_\u0640\u0652"),
    (0xFEF5, 0xFEF9, "\u0644\u0622_\u0644\u0622_\u0644\u0623_\u0644\u0623_\u0644\u0625"),
    (0xFEFA, 0xFEFC, "\u0644\u0625_\u0644\u0627_\u0644\u0627"), (0xFFE3, 0xFFE3, " \u0304"),
    (0x1D15E, 0x1D164, "𝅗𝅥_𝅘𝅥_𝅘𝅥𝅮_𝅘𝅥𝅯_𝅘𝅥𝅰_𝅘𝅥𝅱_𝅘𝅥𝅲"), (0x1D1BB, 0x1D1C0, "𝆹𝅥_𝆺𝅥_𝆹𝅥𝅮_𝆺𝅥𝅮_𝆹𝅥𝅯_𝆺𝅥𝅯"),
    (0x1F100, 0x1F10A, "0._0,_1,_2,_3,_4,_5,_6,_7,_8,_9,"),
    (0x1F110, 0x1F11F, "(A)_(B)_(C)_(D)_(E)_(F)_(G)_(H)_(I)_(J)_(K)_(L)_(M)_(N)_(O)_(P)"),
    (0x1F120, 0x1F12A, "(Q)_(R)_(S)_(T)_(U)_(V)_(W)_(X)_(Y)_(Z)_〔S〕"), (0x1F12D, 0x1F12E, "CD_WZ"),
    (0x1F14A, 0x1F14F, "HV_MV_SD_SS_PPV_WC"), (0x1F16A, 0x1F16C, "MC_MD_MR"),
    (0x1F190, 0x1F190, "DJ"), (0x1F200, 0x1F201, "ほか_ココ"),
    (0x1F240, 0x1F248, "〔本〕_〔三〕_〔二〕_〔安〕_〔点〕_〔打〕_〔盗〕_〔勝〕_〔敗〕")]

/-- Ranges of marks, each with the class that says where among others a mark stands. -/
def markClasses : List (Nat × Nat × Nat) :=
  [(0x300, 0x314, 230), (0x315, 0x315, 232), (0x316, 0x319, 220), (0x31A, 0x31A, 232),
    (0x31B, 0x31B, 216), (0x31C, 0x320, 220), (0x321, 0x322, 202), (0x323, 0x326, 220),
    (0x327, 0x328, 202), (0x329, 0x333, 220), (0x334, 0x338, 1), (0x339, 0x33C, 220),
    (0x33D, 0x344, 230), (0x345, 0x345, 240), (0x346, 0x346, 230), (0x347, 0x349, 220),
    (0x34A, 0x34C, 230), (0x34D, 0x34E, 220), (0x350, 0x352, 230), (0x353, 0x356, 220),
    (0x357, 0x357, 230), (0x358, 0x358, 232), (0x359, 0x35A, 220), (0x35B, 0x35B, 230),
    (0x35C, 0x35C, 233), (0x35D, 0x35E, 234), (0x35F, 0x35F, 233), (0x360, 0x361, 234),
    (0x362, 0x362, 233), (0x363, 0x36F, 230), (0x483, 0x487, 230), (0x591, 0x591, 220),
    (0x592, 0x595, 230), (0x596, 0x596, 220), (0x597, 0x599, 230), (0x59A, 0x59A, 222),
    (0x59B, 0x59B, 220), (0x59C, 0x5A1, 230), (0x5A2, 0x5A7, 220), (0x5A8, 0x5A9, 230),
    (0x5AA, 0x5AA, 220), (0x5AB, 0x5AC, 230), (0x5AD, 0x5AD, 222), (0x5AE, 0x5AE, 228),
    (0x5AF, 0x5AF, 230), (0x5B0, 0x5B0, 10), (0x5B1, 0x5B1, 11), (0x5B2, 0x5B2, 12),
    (0x5B3, 0x5B3, 13), (0x5B4, 0x5B4, 14), (0x5B5, 0x5B5, 15), (0x5B6, 0x5B6, 16),
    (0x5B7, 0x5B7, 17), (0x5B8, 0x5B8, 18), (0x5B9, 0x5BA, 19), (0x5BB, 0x5BB, 20),
    (0x5BC, 0x5BC, 21), (0x5BD, 0x5BD, 22), (0x5BF, 0x5BF, 23), (0x5C1, 0x5C1, 24),
    (0x5C2, 0x5C2, 25), (0x5C4, 0x5C4, 230), (0x5C5, 0x5C5, 220), (0x5C7, 0x5C7, 18),
    (0x610, 0x617, 230), (0x618, 0x618, 30), (0x619, 0x619, 31), (0x61A, 0x61A, 32),
    (0x64B, 0x64B, 27), (0x64C, 0x64C, 28), (0x64D, 0x64D, 29), (0x64E, 0x64E, 30),
    (0x64F, 0x64F, 31), (0x650, 0x650, 32), (0x651, 0x651, 33), (0x652, 0x652, 34),
    (0x653, 0x654, 230), (0x655, 0x656, 220), (0x657, 0x65B, 230), (0x65C, 0x65C, 220),
    (0x65D, 0x65E, 230), (0x65F, 0x65F, 220), (0x670, 0x670, 35), (0x6D6, 0x6DC, 230),
    (0x6DF, 0x6E2, 230), (0x6E3, 0x6E3, 220), (0x6E4, 0x6E4, 230), (0x6E7, 0x6E8, 230),
    (0x6EA, 0x6EA, 220), (0x6EB, 0x6EC, 230), (0x6ED, 0x6ED, 220), (0x711, 0x711, 36),
    (0x730, 0x730, 230), (0x731, 0x731, 220), (0x732, 0x733, 230), (0x734, 0x734, 220),
    (0x735, 0x736, 230), (0x737, 0x739, 220), (0x73A, 0x73A, 230), (0x73B, 0x73C, 220),
    (0x73D, 0x73D, 230), (0x73E, 0x73E, 220), (0x73F, 0x741, 230), (0x742, 0x742, 220),
    (0x743, 0x743, 230), (0x744, 0x744, 220), (0x745, 0x745, 230), (0x746, 0x746, 220),
    (0x747, 0x747, 230), (0x748, 0x748, 220), (0x749, 0x74A, 230), (0x7EB, 0x7F1, 230),
    (0x7F2, 0x7F2, 220), (0x7F3, 0x7F3, 230), (0x7FD, 0x7FD, 220), (0x816, 0x819, 230),
    (0x81B, 0x823, 230), (0x825, 0x827, 230), (0x829, 0x82D, 230), (0x859, 0x85B, 220),
    (0x898, 0x898, 230), (0x899, 0x89B, 220), (0x89C, 0x89F, 230), (0x8CA, 0x8CE, 230),
    (0x8CF, 0x8D3, 220), (0x8D4, 0x8E1, 230), (0x8E3, 0x8E3, 220), (0x8E4, 0x8E5, 230),
    (0x8E6, 0x8E6, 220), (0x8E7, 0x8E8, 230), (0x8E9, 0x8E9, 220), (0x8EA, 0x8EC, 230),
    (0x8ED, 0x8EF, 220), (0x8F0, 0x8F0, 27), (0x8F1, 0x8F1, 28), (0x8F2, 0x8F2, 29),
    (0x8F3, 0x8F5, 230), (0x8F6, 0x8F6, 220), (0x8F7, 0x8F8, 230), (0x8F9, 0x8FA, 220),
    (0x8FB, 0x8FF, 230), (0x93C, 0x93C, 7), (0x94D, 0x94D, 9), (0x951, 0x951, 230),
    (0x952, 0x952, 220), (0x953, 0x954, 230), (0x9BC, 0x9BC, 7), (0x9CD, 0x9CD, 9),
    (0x9FE, 0x9FE, 230), (0xA3C, 0xA3C, 7), (0xA4D, 0xA4D, 9), (0xABC, 0xABC, 7), (0xACD, 0xACD, 9),
    (0xB3C, 0xB3C, 7), (0xB4D, 0xB4D, 9), (0xBCD, 0xBCD, 9), (0xC3C, 0xC3C, 7), (0xC4D, 0xC4D, 9),
    (0xC55, 0xC55, 84), (0xC56, 0xC56, 91), (0xCBC, 0xCBC, 7), (0xCCD, 0xCCD, 9), (0xD3B, 0xD3C, 9),
    (0xD4D, 0xD4D, 9), (0xDCA, 0xDCA, 9), (0xE38, 0xE39, 103), (0xE3A, 0xE3A, 9),
    (0xE48, 0xE4B, 107), (0xEB8, 0xEB9, 118), (0xEBA, 0xEBA, 9), (0xEC8, 0xECB, 122),
    (0xF18, 0xF19, 220), (0xF35, 0xF35, 220), (0xF37, 0xF37, 220), (0xF39, 0xF39, 216),
    (0xF71, 0xF71, 129), (0xF72, 0xF72, 130), (0xF74, 0xF74, 132), (0xF7A, 0xF7D, 130),
    (0xF80, 0xF80, 130), (0xF82, 0xF83, 230), (0xF84, 0xF84, 9), (0xF86, 0xF87, 230),
    (0xFC6, 0xFC6, 220), (0x1037, 0x1037, 7), (0x1039, 0x103A, 9), (0x108D, 0x108D, 220),
    (0x135D, 0x135F, 230), (0x1714, 0x1715, 9), (0x1734, 0x1734, 9), (0x17D2, 0x17D2, 9),
    (0x17DD, 0x17DD, 230), (0x18A9, 0x18A9, 228), (0x1939, 0x1939, 222), (0x193A, 0x193A, 230),
    (0x193B, 0x193B, 220), (0x1A17, 0x1A17, 230), (0x1A18, 0x1A18, 220), (0x1A60, 0x1A60, 9),
    (0x1A75, 0x1A7C, 230), (0x1A7F, 0x1A7F, 220), (0x1AB0, 0x1AB4, 230), (0x1AB5, 0x1ABA, 220),
    (0x1ABB, 0x1ABC, 230), (0x1ABD, 0x1ABD, 220), (0x1ABF, 0x1AC0, 220), (0x1AC1, 0x1AC2, 230),
    (0x1AC3, 0x1AC4, 220), (0x1AC5, 0x1AC9, 230), (0x1ACA, 0x1ACA, 220), (0x1ACB, 0x1ACE, 230),
    (0x1B34, 0x1B34, 7), (0x1B44, 0x1B44, 9), (0x1B6B, 0x1B6B, 230), (0x1B6C, 0x1B6C, 220),
    (0x1B6D, 0x1B73, 230), (0x1BAA, 0x1BAB, 9), (0x1BE6, 0x1BE6, 7), (0x1BF2, 0x1BF3, 9),
    (0x1C37, 0x1C37, 7), (0x1CD0, 0x1CD2, 230), (0x1CD4, 0x1CD4, 1), (0x1CD5, 0x1CD9, 220),
    (0x1CDA, 0x1CDB, 230), (0x1CDC, 0x1CDF, 220), (0x1CE0, 0x1CE0, 230), (0x1CE2, 0x1CE8, 1),
    (0x1CED, 0x1CED, 220), (0x1CF4, 0x1CF4, 230), (0x1CF8, 0x1CF9, 230), (0x1DC0, 0x1DC1, 230),
    (0x1DC2, 0x1DC2, 220), (0x1DC3, 0x1DC9, 230), (0x1DCA, 0x1DCA, 220), (0x1DCB, 0x1DCC, 230),
    (0x1DCD, 0x1DCD, 234), (0x1DCE, 0x1DCE, 214), (0x1DCF, 0x1DCF, 220), (0x1DD0, 0x1DD0, 202),
    (0x1DD1, 0x1DF5, 230), (0x1DF6, 0x1DF6, 232), (0x1DF7, 0x1DF8, 228), (0x1DF9, 0x1DF9, 220),
    (0x1DFA, 0x1DFA, 218), (0x1DFB, 0x1DFB, 230), (0x1DFC, 0x1DFC, 233), (0x1DFD, 0x1DFD, 220),
    (0x1DFE, 0x1DFE, 230), (0x1DFF, 0x1DFF, 220), (0x20D0, 0x20D1, 230), (0x20D2, 0x20D3, 1),
    (0x20D4, 0x20D7, 230), (0x20D8, 0x20DA, 1), (0x20DB, 0x20DC, 230), (0x20E1, 0x20E1, 230),
    (0x20E5, 0x20E6, 1), (0x20E7, 0x20E7, 230), (0x20E8, 0x20E8, 220), (0x20E9, 0x20E9, 230),
    (0x20EA, 0x20EB, 1), (0x20EC, 0x20EF, 220), (0x20F0, 0x20F0, 230), (0x2CEF, 0x2CF1, 230),
    (0x2D7F, 0x2D7F, 9), (0x2DE0, 0x2DFF, 230), (0x302A, 0x302A, 218), (0x302B, 0x302B, 228),
    (0x302C, 0x302C, 232), (0x302D, 0x302D, 222), (0x302E, 0x302F, 224), (0x3099, 0x309A, 8),
    (0xA66F, 0xA66F, 230), (0xA674, 0xA67D, 230), (0xA69E, 0xA69F, 230), (0xA6F0, 0xA6F1, 230),
    (0xA806, 0xA806, 9), (0xA82C, 0xA82C, 9), (0xA8C4, 0xA8C4, 9), (0xA8E0, 0xA8F1, 230),
    (0xA92B, 0xA92D, 220), (0xA953, 0xA953, 9), (0xA9B3, 0xA9B3, 7), (0xA9C0, 0xA9C0, 9),
    (0xAAB0, 0xAAB0, 230), (0xAAB2, 0xAAB3, 230), (0xAAB4, 0xAAB4, 220), (0xAAB7, 0xAAB8, 230),
    (0xAABE, 0xAABF, 230), (0xAAC1, 0xAAC1, 230), (0xAAF6, 0xAAF6, 9), (0xABED, 0xABED, 9),
    (0xFB1E, 0xFB1E, 26), (0xFE20, 0xFE26, 230), (0xFE27, 0xFE2D, 220), (0xFE2E, 0xFE2F, 230),
    (0x101FD, 0x101FD, 220), (0x102E0, 0x102E0, 220), (0x10376, 0x1037A, 230),
    (0x10A0D, 0x10A0D, 220), (0x10A0F, 0x10A0F, 230), (0x10A38, 0x10A38, 230),
    (0x10A39, 0x10A39, 1), (0x10A3A, 0x10A3A, 220), (0x10A3F, 0x10A3F, 9), (0x10AE5, 0x10AE5, 230),
    (0x10AE6, 0x10AE6, 220), (0x10D24, 0x10D27, 230), (0x10EAB, 0x10EAC, 230),
    (0x10F46, 0x10F47, 220), (0x10F48, 0x10F4A, 230), (0x10F4B, 0x10F4B, 220),
    (0x10F4C, 0x10F4C, 230), (0x10F4D, 0x10F50, 220), (0x10F82, 0x10F82, 230),
    (0x10F83, 0x10F83, 220), (0x10F84, 0x10F84, 230), (0x10F85, 0x10F85, 220),
    (0x11046, 0x11046, 9), (0x11070, 0x11070, 9), (0x1107F, 0x1107F, 9), (0x110B9, 0x110B9, 9),
    (0x110BA, 0x110BA, 7), (0x11100, 0x11102, 230), (0x11133, 0x11134, 9), (0x11173, 0x11173, 7),
    (0x111C0, 0x111C0, 9), (0x111CA, 0x111CA, 7), (0x11235, 0x11235, 9), (0x11236, 0x11236, 7),
    (0x112E9, 0x112E9, 7), (0x112EA, 0x112EA, 9), (0x1133B, 0x1133C, 7), (0x1134D, 0x1134D, 9),
    (0x11366, 0x1136C, 230), (0x11370, 0x11374, 230), (0x11442, 0x11442, 9), (0x11446, 0x11446, 7),
    (0x1145E, 0x1145E, 230), (0x114C2, 0x114C2, 9), (0x114C3, 0x114C3, 7), (0x115BF, 0x115BF, 9),
    (0x115C0, 0x115C0, 7), (0x1163F, 0x1163F, 9), (0x116B6, 0x116B6, 9), (0x116B7, 0x116B7, 7),
    (0x1172B, 0x1172B, 9), (0x11839, 0x11839, 9), (0x1183A, 0x1183A, 7), (0x1193D, 0x1193E, 9),
    (0x11943, 0x11943, 7), (0x119E0, 0x119E0, 9), (0x11A34, 0x11A34, 9), (0x11A47, 0x11A47, 9),
    (0x11A99, 0x11A99, 9), (0x11C3F, 0x11C3F, 9), (0x11D42, 0x11D42, 7), (0x11D44, 0x11D45, 9),
    (0x11D97, 0x11D97, 9), (0x16AF0, 0x16AF4, 1), (0x16B30, 0x16B36, 230), (0x16FF0, 0x16FF1, 6),
    (0x1BC9E, 0x1BC9E, 1), (0x1D165, 0x1D166, 216), (0x1D167, 0x1D169, 1), (0x1D16D, 0x1D16D, 226),
    (0x1D16E, 0x1D172, 216), (0x1D17B, 0x1D182, 220), (0x1D185, 0x1D189, 230),
    (0x1D18A, 0x1D18B, 220), (0x1D1AA, 0x1D1AD, 230), (0x1D242, 0x1D244, 230),
    (0x1E000, 0x1E006, 230), (0x1E008, 0x1E018, 230), (0x1E01B, 0x1E021, 230),
    (0x1E023, 0x1E024, 230), (0x1E026, 0x1E02A, 230), (0x1E130, 0x1E136, 230),
    (0x1E2AE, 0x1E2AE, 230), (0x1E2EC, 0x1E2EF, 230), (0x1E8D0, 0x1E8D6, 220),
    (0x1E944, 0x1E949, 230), (0x1E94A, 0x1E94A, 7)]

end DocExamples.Text
