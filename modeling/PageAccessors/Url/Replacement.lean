import PageAccessors.Url.Tables

/-!
# Characters that stand for others

What a host name holds in the place of a character: small letters for capital ones, letters and
digits for their ornamental forms, and the ideographs that are meant by those of older standards.
The tables are those of the mapping of internationalized domain names.
-/

namespace PageAccessors.Url

/-- Ranges in which every second character stands for the one behind it. -/
def pairedRanges : Array (Nat × Nat) := #[
  (0x100, 0x12E), (0x134, 0x136), (0x139, 0x13D), (0x141, 0x147), (0x14A, 0x176), (0x179, 0x17D),
  (0x182, 0x184), (0x1A0, 0x1A4), (0x1B3, 0x1B5), (0x1CD, 0x1DB), (0x1DE, 0x1EE), (0x1F8, 0x21E),
  (0x222, 0x232), (0x246, 0x24E), (0x370, 0x372), (0x3D8, 0x3EE), (0x460, 0x480), (0x48A, 0x4BE),
  (0x4C1, 0x4CD), (0x4D0, 0x52E), (0x1E00, 0x1E94), (0x1EA0, 0x1EFE), (0x2C67, 0x2C6B),
  (0x2C80, 0x2CE2), (0x2CEB, 0x2CED), (0xA640, 0xA66C), (0xA680, 0xA69A), (0xA722, 0xA72E),
  (0xA732, 0xA76E), (0xA779, 0xA77B), (0xA77E, 0xA786), (0xA790, 0xA792), (0xA796, 0xA7A8),
  (0xA7B4, 0xA7C2), (0xA7C7, 0xA7C9), (0xA7CC, 0xA7DA)]

/-- Runs of characters that stand for those of another run: the first character, how many there
are, and what the first one stands for. -/
def shiftedRuns : Array (Nat × Nat × Nat) := #[
  (0xB2, 2, 0x32), (0xC0, 23, 0xE0), (0xD8, 7, 0xF8), (0x189, 2, 0x256), (0x1B1, 2, 0x28A),
  (0x340, 2, 0x300), (0x37E, 1, 0x3B), (0x388, 3, 0x3AD), (0x38E, 2, 0x3CD), (0x391, 17, 0x3B1),
  (0x3A3, 9, 0x3C3), (0x3FD, 3, 0x37B), (0x400, 16, 0x450), (0x410, 32, 0x430), (0x531, 38, 0x561),
  (0x10A0, 38, 0x2D00), (0x13F8, 6, 0x13F0), (0x1C83, 2, 0x441), (0x1C90, 43, 0x10D0),
  (0x1CBD, 3, 0x10FD), (0x1D30, 2, 0x64), (0x1D33, 8, 0x67), (0x1D40, 2, 0x74), (0x1D44, 2, 0x250),
  (0x1D48, 2, 0x64), (0x1D4B, 2, 0x25B), (0x1D54, 2, 0x1D16), (0x1D57, 2, 0x74), (0x1D5D, 3, 0x3B2),
  (0x1D60, 2, 0x3C6), (0x1D64, 2, 0x75), (0x1D66, 2, 0x3B2), (0x1D69, 2, 0x3C6), (0x1DA4, 3, 0x268),
  (0x1DAE, 4, 0x272), (0x1DB3, 2, 0x282), (0x1DB6, 2, 0x289), (0x1DB9, 2, 0x28B),
  (0x1DBC, 3, 0x290), (0x1F08, 8, 0x1F00), (0x1F18, 6, 0x1F10), (0x1F28, 8, 0x1F20),
  (0x1F38, 8, 0x1F30), (0x1F48, 6, 0x1F40), (0x1F68, 8, 0x1F60), (0x1FB8, 2, 0x1FB0),
  (0x1FD8, 2, 0x1FD0), (0x1FE8, 2, 0x1FE0), (0x1FEF, 1, 0x60), (0x2074, 6, 0x34), (0x207A, 1, 0x2B),
  (0x207C, 1, 0x3D), (0x207D, 2, 0x28), (0x2080, 10, 0x30), (0x208A, 1, 0x2B), (0x208C, 1, 0x3D),
  (0x208D, 2, 0x28), (0x2096, 4, 0x6B), (0x209B, 2, 0x73), (0x210A, 2, 0x67), (0x210C, 1, 0x68),
  (0x210D, 1, 0x68), (0x210E, 1, 0x68), (0x2119, 3, 0x70), (0x212C, 2, 0x62), (0x2130, 2, 0x65),
  (0x2135, 4, 0x5D0), (0x2146, 2, 0x64), (0x2148, 2, 0x69), (0x216D, 2, 0x63), (0x217D, 2, 0x63),
  (0x2329, 2, 0x3008), (0x2460, 9, 0x31), (0x24B6, 26, 0x61), (0x24D0, 26, 0x61),
  (0x2C00, 48, 0x2C30), (0x2C7E, 2, 0x23F), (0x3002, 1, 0x2E), (0x3039, 2, 0x5344),
  (0x3131, 2, 0x1100), (0x3135, 2, 0x11AC), (0x3137, 3, 0x1103), (0x313A, 6, 0x11B0),
  (0x3141, 3, 0x1106), (0x3145, 10, 0x1109), (0x314F, 21, 0x1161), (0x3165, 2, 0x1114),
  (0x3167, 2, 0x11C7), (0x3171, 2, 0x111D), (0x3174, 2, 0x1122), (0x3178, 5, 0x112B),
  (0x3182, 2, 0x11F1), (0x3184, 3, 0x1157), (0x3187, 2, 0x1184), (0x318A, 2, 0x1191),
  (0x3261, 2, 0x1102), (0x3263, 3, 0x1105), (0x3267, 2, 0x110B), (0x3269, 5, 0x110E),
  (0x32D4, 2, 0x30AA), (0x32E4, 6, 0x30CA), (0x32EE, 5, 0x30DE), (0x32F5, 6, 0x30E8),
  (0x32FB, 4, 0x30EF), (0xAB70, 80, 0x13A0), (0xFB22, 2, 0x5D3), (0xFB24, 3, 0x5DB),
  (0xFB29, 1, 0x2B), (0xFE10, 1, 0x2C), (0xFE14, 1, 0x3B), (0xFE15, 1, 0x21), (0xFE17, 2, 0x3016),
  (0xFE33, 1, 0x5F), (0xFE34, 1, 0x5F), (0xFE35, 2, 0x28), (0xFE37, 1, 0x7B), (0xFE38, 1, 0x7D),
  (0xFE39, 2, 0x3014), (0xFE3B, 2, 0x3010), (0xFE3D, 2, 0x300A), (0xFE3F, 2, 0x3008),
  (0xFE41, 4, 0x300C), (0xFE4D, 1, 0x5F), (0xFE4E, 1, 0x5F), (0xFE4F, 1, 0x5F), (0xFE50, 1, 0x2C),
  (0xFE54, 1, 0x3B), (0xFE57, 1, 0x21), (0xFE59, 2, 0x28), (0xFE5B, 1, 0x7B), (0xFE5C, 1, 0x7D),
  (0xFE5D, 2, 0x3014), (0xFE60, 1, 0x26), (0xFE61, 2, 0x2A), (0xFE63, 1, 0x2D), (0xFE64, 1, 0x3C),
  (0xFE65, 1, 0x3E), (0xFE66, 1, 0x3D), (0xFE69, 1, 0x24), (0xFE80, 2, 0x621), (0xFE82, 2, 0x622),
  (0xFE84, 2, 0x623), (0xFE86, 2, 0x624), (0xFE88, 2, 0x625), (0xFF01, 2, 0x21), (0xFF04, 1, 0x24),
  (0xFF06, 9, 0x26), (0xFF10, 10, 0x30), (0xFF1B, 4, 0x3B), (0xFF21, 26, 0x61), (0xFF3F, 29, 0x5F),
  (0xFF5D, 2, 0x7D),
  (0xFF5F, 2, 0x2985), (0xFF61, 1, 0x2E), (0xFF62, 2, 0x300C), (0xFF75, 2, 0x30AA),
  (0xFF85, 6, 0x30CA), (0xFF8F, 5, 0x30DE), (0xFF96, 6, 0x30E8), (0xFF9E, 2, 0x3099),
  (0xFFA1, 2, 0x1100), (0xFFA5, 2, 0x11AC), (0xFFA7, 3, 0x1103), (0xFFAA, 6, 0x11B0),
  (0xFFB1, 3, 0x1106), (0xFFB5, 10, 0x1109), (0xFFC2, 6, 0x1161), (0xFFCA, 6, 0x1167),
  (0xFFD2, 6, 0x116D), (0xFFDA, 3, 0x1173), (0xFFE0, 2, 0xA2), (0xFFE9, 4, 0x2190),
  (0x10400, 40, 0x10428), (0x104B0, 36, 0x104D8), (0x10570, 11, 0x10597), (0x1057C, 15, 0x105A3),
  (0x1058C, 7, 0x105B3), (0x10594, 2, 0x105BB), (0x10781, 2, 0x2D0), (0x1078B, 2, 0x256),
  (0x10799, 2, 0x2AA), (0x107A3, 2, 0x276), (0x107A8, 2, 0x27D), (0x107B3, 2, 0x2A1),
  (0x107B6, 3, 0x1C0), (0x10C80, 51, 0x10CC0), (0x10D50, 22, 0x10D70), (0x118A0, 32, 0x118C0),
  (0x16E40, 32, 0x16E60), (0x16EA0, 25, 0x16EBB), (0x1CCD6, 26, 0x61), (0x1CCF0, 10, 0x30),
  (0x1D400, 26, 0x61), (0x1D41A, 26, 0x61), (0x1D434, 26, 0x61), (0x1D44E, 7, 0x61),
  (0x1D456, 18, 0x69), (0x1D468, 26, 0x61), (0x1D482, 26, 0x61), (0x1D49E, 2, 0x63),
  (0x1D4A5, 2, 0x6A), (0x1D4A9, 4, 0x6E), (0x1D4AE, 8, 0x73), (0x1D4B6, 4, 0x61),
  (0x1D4BD, 7, 0x68), (0x1D4C5, 11, 0x70), (0x1D4D0, 26, 0x61), (0x1D4EA, 26, 0x61),
  (0x1D504, 2, 0x61), (0x1D507, 4, 0x64), (0x1D50D, 8, 0x6A), (0x1D516, 7, 0x73),
  (0x1D51E, 26, 0x61), (0x1D538, 2, 0x61), (0x1D53B, 4, 0x64), (0x1D540, 5, 0x69),
  (0x1D54A, 7, 0x73), (0x1D552, 26, 0x61), (0x1D56C, 26, 0x61), (0x1D586, 26, 0x61),
  (0x1D5A0, 26, 0x61), (0x1D5BA, 26, 0x61), (0x1D5D4, 26, 0x61), (0x1D5EE, 26, 0x61),
  (0x1D608, 26, 0x61), (0x1D622, 26, 0x61), (0x1D63C, 26, 0x61), (0x1D656, 26, 0x61),
  (0x1D670, 26, 0x61), (0x1D68A, 26, 0x61), (0x1D6A8, 17, 0x3B1), (0x1D6BA, 7, 0x3C3),
  (0x1D6C2, 17, 0x3B1), (0x1D6D4, 7, 0x3C3), (0x1D6E2, 17, 0x3B1), (0x1D6F4, 7, 0x3C3),
  (0x1D6FC, 17, 0x3B1), (0x1D70E, 7, 0x3C3), (0x1D71C, 17, 0x3B1), (0x1D72E, 7, 0x3C3),
  (0x1D736, 17, 0x3B1), (0x1D748, 7, 0x3C3), (0x1D756, 17, 0x3B1), (0x1D768, 7, 0x3C3),
  (0x1D770, 17, 0x3B1), (0x1D782, 7, 0x3C3), (0x1D790, 17, 0x3B1), (0x1D7A2, 7, 0x3C3),
  (0x1D7AA, 17, 0x3B1), (0x1D7BC, 7, 0x3C3), (0x1D7CE, 10, 0x30), (0x1D7D8, 10, 0x30),
  (0x1D7E2, 10, 0x30), (0x1D7EC, 10, 0x30), (0x1D7F6, 10, 0x30), (0x1E030, 9, 0x430),
  (0x1E039, 3, 0x43A), (0x1E03C, 11, 0x43E), (0x1E048, 2, 0x44D), (0x1E051, 9, 0x430),
  (0x1E05A, 2, 0x43A), (0x1E05C, 2, 0x43E), (0x1E05F, 6, 0x443), (0x1E065, 2, 0x44A),
  (0x1E900, 34, 0x1E922), (0x1EE00, 2, 0x627), (0x1EE0A, 4, 0x643), (0x1EE15, 2, 0x62A),
  (0x1EE2A, 4, 0x643), (0x1EE35, 2, 0x62A), (0x1EE6C, 2, 0x645), (0x1EE75, 2, 0x62A),
  (0x1EE80, 2, 0x627), (0x1EE84, 2, 0x647), (0x1EE8B, 3, 0x644), (0x1EE95, 2, 0x62A),
  (0x1EEAB, 3, 0x644), (0x1EEB5, 2, 0x62A), (0x1F130, 26, 0x61), (0x1FBF0, 10, 0x30)]

/-- Runs of ideographs that stand for others: the first of a run, and what they stand for. -/
def ideographRuns : Array (Nat × String) := #[
  (0x2E9F, "母"),
  (0x2EF3, "龟"),
  (0x2F00, "一丨丶丿乙亅二亠人儿入八冂冖冫几凵刀力勹匕匚匸十卜卩厂厶又口囗土士夂夊夕大女子宀"),
  (0x2F28, "寸小尢尸屮山巛工己巾干幺广廴廾弋弓彐彡彳心戈戶手支攴文斗斤方无日曰月木欠止歹殳毋"),
  (0x2F50, "比毛氏气水火爪父爻爿片牙牛犬玄玉瓜瓦甘生用田疋疒癶白皮皿目矛矢石示禸禾穴立竹米糸"),
  (0x2F78, "缶网羊羽老而耒耳聿肉臣自至臼舌舛舟艮色艸虍虫血行衣襾見角言谷豆豕豸貝赤走足身車辛"),
  (0x2FA0, "辰辵邑酉釆里金長門阜隶隹雨靑非面革韋韭音頁風飛食首香馬骨高髟鬥鬯鬲鬼魚鳥鹵鹿麥麻"),
  (0x2FC8, "黃黍黑黹黽鼎鼓鼠鼻齊齒龍龜龠"),
  (0xF900, "豈更車賈滑串句龜龜契金喇奈懶癩羅蘿螺裸邏樂洛烙珞落酪駱亂卵欄爛蘭鸞嵐濫藍襤拉臘蠟"),
  (0xF928, "廊朗浪狼郎來冷勞擄櫓爐盧老蘆虜路露魯鷺碌祿綠菉錄鹿論壟弄籠聾牢磊賂雷壘屢樓淚漏累"),
  (0xF950, "縷陋勒肋凜凌稜綾菱陵讀拏樂諾丹寧怒率異北磻便復不泌數索參塞省葉說殺辰沈拾若掠略亮"),
  (0xF978, "兩凉梁糧良諒量勵呂女廬旅濾礪閭驪麗黎力曆歷轢年憐戀撚漣煉璉秊練聯輦蓮連鍊列劣咽烈"),
  (0xF9A0, "裂說廉念捻殮簾獵令囹寧嶺怜玲瑩羚聆鈴零靈領例禮醴隸惡了僚寮尿料樂燎療蓼遼龍暈阮劉"),
  (0xF9C8, "杻柳流溜琉留硫紐類六戮陸倫崙淪輪律慄栗率隆利吏履易李梨泥理痢罹裏裡里離匿溺吝燐璘"),
  (0xF9F0, "藺隣鱗麟林淋臨立笠粒狀炙識什茶刺切度拓糖宅洞暴輻行降見廓兀嗀"),
  (0xFA10, "塚"),
  (0xFA12, "晴"),
  (0xFA15, "凞猪益礼神祥福靖精羽"),
  (0xFA20, "蘒"),
  (0xFA22, "諸"),
  (0xFA25, "逸都"),
  (0xFA2A, "飯飼館鶴郞隷侮僧免勉勤卑喝嘆器塀墨層屮悔慨憎懲敏既暑梅海渚漢煮爫琢碑社祉祈祐祖祝"),
  (0xFA52, "禍禎穀突節練縉繁署者臭艹艹著褐視謁謹賓贈辶逸難響頻恵𤋮舘"),
  (0xFA70, "並况全侀充冀勇勺喝啕喙嗢塚墳奄奔婢嬨廒廙彩徭惘慎愈憎慠懲戴揄搜摒敖晴朗望杖歹殺流"),
  (0xFA98, "滛滋漢瀞煮瞧爵犯猪瑱甆画瘝瘟益盛直睊着磌窱節类絛練缾者荒華蝹襁覆視調諸請謁諾諭謹"),
  (0xFAC0, "變贈輸遲醙鉶陼難靖韛響頋頻鬒龜𢡊𢡄𣏕㮝䀘䀹𥉉𥳐𧻓齃龎"),
  (0x2F800, "丽丸乁𠄢你侮侻倂偺備僧像㒞𠘺免兔兤具𠔜㒹內再𠕋冗冤仌冬况𩇟凵刃㓟刻剆割剷㔕勇勉勤"),
  (0x2F828, "勺包匆北卉卑博即卽卿卿卿𠨬灰及叟𠭣叫叱吆咞吸呈周咢哶唐啓啣善善喙喫喳嗂圖嘆圗噑噴"),
  (0x2F850, "切壮城埴堍型堲報墬𡓤売壷夆多夢奢𡚨𡛪姬娛娧姘婦㛮㛼嬈嬾嬾𡧈寃寘寧寳𡬘寿将当尢㞁屠"),
  (0x2F878, "屮峀岍𡷤嵃𡷦嵮嵫嵼巡巢㠯巽帨帽幩㡢𢆃㡼庰庳庶廊𪎒廾𢌱𢌱舁弢弢㣇𣊸𦇚形彫㣣徚忍志忹"),
  (0x2F8A0, "悁㤺㤜悔𢛔惇慈慌慎慌慺憎憲憤憯懞懲懶成戛扝抱拔捐𢬌挽拼捨掃揤𢯱搢揅掩㨮摩摾撝摷㩬"),
  (0x2F8C8, "敏敬𣀊旣書晉㬙暑㬈㫤冒冕最暜肭䏙朗望朡杞杓𣏃㭉柺枅桒梅𣑭梎栟椔㮝楂榣槪檨𣚣櫛㰘次"),
  (0x2F8F0, "𣢧歔㱎歲殟殺殻𣪍𡴋𣫺汎𣲼沿泍汧洖派海流浩浸涅𣴞洴港湮㴳滋滇𣻑淹潮𣽞𣾎濆瀹瀞瀛㶖灊"),
  (0x2F918, "災灷炭𠔥煅𤉣熜𤎫爨爵牐𤘈犀犕𤜵𤠔獺王㺬玥㺸㺸瑇瑜瑱璅瓊㼛甤𤰶甾𤲒異𢆟瘐𤾡𤾸𥁄㿼䀈"),
  (0x2F940, "直𥃳𥃲𥄙𥄳眞真真睊䀹瞋䁆䂖𥐝硎碌磌䃣𥘦祖𥚚𥛅福秫䄯穀穊穏𥥼𥪧𥪧竮䈂𥮫篆築䈧𥲀糒䊠"),
  (0x2F968, "糨糣紀𥾆絣䌁緇縂繅䌴𦈨𦉇䍙𦋙罺𦌾羕翺者𦓚𦔣聠𦖨聰𣍟䏕育脃䐋脾媵𦞧𦞵𣎓𣎜舁舄辞䑫芑"),
  (0x2F990, "芋芝劳花芳芽苦𦬼若茝荣莭茣莽菧著荓菊菌菜𦰶𦵫𦳕䔫蓱蓳蔖𧏊蕤𦼬䕝䕡𦾱𧃒䕫虐虜虧虩蚩"),
  (0x2F9B8, "蚈蜎蛢蝹蜨蝫螆䗗蟡蠁䗹衠衣𧙧裗裞䘵裺㒻𧢮𧥦䚾䛇誠諭變豕𧲨貫賁贛起𧼯𠠄跋趼跰𠣞軔輸"),
  (0x2F9E0, "𨗒𨗭邔郱鄑𨜮鄛鈸鋗鋘鉼鏹鐕𨯺開䦕閷𨵷䧦雃嶲霣𩅅𩈚䩮䩶韠𩐊䪲𩒖頋頋頩𩖶飢䬳餩馧駂駾"),
  (0x2FA08, "䯎𩬰鬒鱀鳽䳎䳭鵧𪃎䳸𪄅𪈎𪊑麻䵖黹黾鼅鼏鼖鼻𪘀")]

/-- Other characters, each with what it stands for. -/
def replacements : Array String := #[
  "ªa µμ ¹1 ºo ¼1⁄4 ½1⁄2 ¾3⁄4 İi̇ Ĳij ĳij Ŀl· ŀl· ŉʼn Ÿÿ ſs Ɓɓ Ɔɔ Ƈƈ Ƌƌ Ǝǝ Əə Ɛɛ Ƒƒ Ɠɠ Ɣɣ Ɩɩ",
  "Ɨɨ Ƙƙ Ɯɯ Ɲɲ Ɵɵ Ʀʀ Ƨƨ Ʃʃ Ƭƭ Ʈʈ Ưư Ʒʒ Ƹƹ Ƽƽ Ǆdž ǅdž ǆdž Ǉlj ǈlj ǉlj Ǌnj ǋnj ǌnj Ǳdz ǲdz ǳdz",
  "Ǵǵ Ƕƕ Ƿƿ Ƞƞ Ⱥⱥ Ȼȼ Ƚƚ Ⱦⱦ Ɂɂ Ƀƀ Ʉʉ Ʌʌ ʰh ʱɦ ʲj ʳr ʴɹ ʵɻ ʶʁ ʷw ʸy ˠɣ ˡl ˢs ˣx ˤʕ ̓̓ ̈́̈́ ͅι ʹʹ",
  "Ͷͷ Ϳϳ Άά ·· Όό Ϗϗ ϐβ ϑθ ϒυ ϓύ ϔϋ ϕφ ϖπ ϰκ ϱρ ϲσ ϴθ ϵε Ϸϸ Ϲσ Ϻϻ Ӏӏ ևեւ ٵاٴ ٶوٴ ٷۇٴ ٸيٴ क़क़",
  "ख़ख़ ग़ग़ ज़ज़ ड़ड़ ढ़ढ़ फ़फ़ य़य़ ড়ড় ঢ়ঢ় য়য় ਲ਼ਲ਼ ਸ਼ਸ਼ ਖ਼ਖ਼ ਗ਼ਗ਼ ਜ਼ਜ਼ ਫ਼ਫ਼ ଡ଼ଡ଼ ଢ଼ଢ଼ ำํา ຳໍາ ໜຫນ ໝຫມ ༌་",
  "གྷགྷ ཌྷཌྷ དྷདྷ བྷབྷ ཛྷཛྷ ཀྵཀྵ ཱཱིི ཱཱུུ ྲྀྲྀ ཷྲཱྀ ླྀླྀ ཹླཱྀ ཱཱྀྀ ྒྷྒྷ ྜྷྜྷ ྡྷྡྷ ྦྷྦྷ ྫྷྫྷ ྐྵྐྵ Ⴧⴧ Ⴭⴭ ჼნ ᲀв",
  "ᲁд ᲂо ᲅт ᲆъ ᲇѣ ᲈꙋ Ᲊᲊ ᴬa ᴭæ ᴮb ᴲǝ ᴼo ᴽȣ ᴾp ᴿr ᵂw ᵃa ᵆᴂ ᵇb ᵊə ᵍg ᵏk ᵐm ᵑŋ ᵒo ᵓɔ ᵖp ᵙᴝ ᵚɯ ᵛv",
  "ᵜᴥ ᵢi ᵣr ᵨρ ᵸн ᶛɒ ᶜc ᶝɕ ᶞð ᶟɜ ᶠf ᶡɟ ᶢɡ ᶣɥ ᶧᵻ ᶨʝ ᶩɭ ᶪᶅ ᶫʟ ᶬɱ ᶭɰ ᶲɸ ᶵƫ ᶸᴜ ᶻz ᶿθ ẚaʾ ẛṡ ẞß Ὑὑ",
  "Ὓὓ Ὕὕ Ὗὗ άά έέ ήή ίί όό ύύ ώώ ᾀἀι ᾁἁι ᾂἂι ᾃἃι ᾄἄι ᾅἅι ᾆἆι ᾇἇι ᾈἀι ᾉἁι ᾊἂι ᾋἃι ᾌἄι ᾍἅι ᾎἆι",
  "ᾏἇι ᾐἠι ᾑἡι ᾒἢι ᾓἣι ᾔἤι ᾕἥι ᾖἦι ᾗἧι ᾘἠι ᾙἡι ᾚἢι ᾛἣι ᾜἤι ᾝἥι ᾞἦι ᾟἧι ᾠὠι ᾡὡι ᾢὢι ᾣὣι ᾤὤι",
  "ᾥὥι ᾦὦι ᾧὧι ᾨὠι ᾩὡι ᾪὢι ᾫὣι ᾬὤι ᾭὥι ᾮὦι ᾯὧι ᾲὰι ᾳαι ᾴάι ᾷᾶι Ὰὰ Άά ᾼαι ιι ῂὴι ῃηι ῄήι ῇῆι",
  "Ὲὲ Έέ Ὴὴ Ήή ῌηι ΐΐ Ὶὶ Ίί ΰΰ Ὺὺ Ύύ Ῥῥ ῲὼι ῳωι ῴώι ῷῶι Ὸὸ Όό Ὼὼ Ώώ ῼωι ‑‐ ″′′ ‴′′′ ‶‵‵ ‷‵‵‵",
  "‼!! ⁗′′′′ ⁰0 ⁱi ⁻− ⁿn ₋− ₐa ₑe ₒo ₓx ₔə ₕh ₚp ₨rs ℂc ℃°c ℇɛ ℉°f ℏħ ℐi ℑi ℒl ℓl ℕn №no ℜr",
  "ℝr ℠sm ℡tel ™tm ℤz Ωω ℨz Kk Åå ℯe Ⅎⅎ ℳm ℴo ℹi ℻fax ℼπ ℽγ ℾγ ℿπ ⅀∑ ⅅd ⅐1⁄7 ⅑1⁄9 ⅒1⁄10 ⅓1⁄3",
  "⅔2⁄3 ⅕1⁄5 ⅖2⁄5 ⅗3⁄5 ⅘4⁄5 ⅙1⁄6 ⅚5⁄6 ⅛1⁄8 ⅜3⁄8 ⅝5⁄8 ⅞7⁄8 ⅟1⁄ Ⅰi Ⅱii Ⅲiii Ⅳiv Ⅴv Ⅵvi Ⅶvii",
  "Ⅷviii Ⅸix Ⅹx Ⅺxi Ⅻxii Ⅼl Ⅿm ⅰi ⅱii ⅲiii ⅳiv ⅴv ⅵvi ⅶvii ⅷviii ⅸix ⅹx ⅺxi ⅻxii ⅼl ⅿm Ↄↄ",
  "↉0⁄3 ∬∫∫ ∭∫∫∫ ∯∮∮ ∰∮∮∮ ⑩10 ⑪11 ⑫12 ⑬13 ⑭14 ⑮15 ⑯16 ⑰17 ⑱18 ⑲19 ⑳20 ⑴(1) ⑵(2) ⑶(3) ⑷(4)",
  "⑸(5) ⑹(6) ⑺(7) ⑻(8) ⑼(9) ⑽(10) ⑾(11) ⑿(12) ⒀(13) ⒁(14) ⒂(15) ⒃(16) ⒄(17) ⒅(18) ⒆(19) ⒇(20)",
  "⒜(a) ⒝(b) ⒞(c) ⒟(d) ⒠(e) ⒡(f) ⒢(g) ⒣(h) ⒤(i) ⒥(j) ⒦(k) ⒧(l) ⒨(m) ⒩(n) ⒪(o) ⒫(p) ⒬(q) ⒭(r)",
  "⒮(s) ⒯(t) ⒰(u) ⒱(v) ⒲(w) ⒳(x) ⒴(y) ⒵(z) ⓪0 ⨌∫∫∫∫ ⩵== ⩶=== ⫝̸⫝̸ Ⱡⱡ Ɫɫ Ᵽᵽ Ɽɽ Ɑɑ Ɱɱ Ɐɐ Ɒɒ Ⱳⱳ",
  "Ⱶⱶ ⱼj ⱽv Ⳳⳳ ⵯⵡ 〶〒 〸十 ゟより ヿコト ㄳᆪ ㄴᄂ ㅀᄚ ㅄᄡ ㅩᇌ ㅪᇎ ㅫᇓ ㅬᇗ ㅭᇙ ㅮᄜ ㅯᇝ ㅰᇟ ㅳᄠ ㅶᄧ ㅷᄩ ㅽᄲ ㅾᄶ ㅿᅀ ㆀᅇ ㆁᅌ",
  "ㆉᆈ ㆌᆔ ㆍᆞ ㆎᆡ ㆒一 ㆓二 ㆔三 ㆕四 ㆖上 ㆗中 ㆘下 ㆙甲 ㆚乙 ㆛丙 ㆜丁 ㆝天 ㆞地 ㆟人 ㈀(ᄀ) ㈁(ᄂ) ㈂(ᄃ) ㈃(ᄅ) ㈄(ᄆ) ㈅(ᄇ) ㈆(ᄉ)",
  "㈇(ᄋ) ㈈(ᄌ) ㈉(ᄎ) ㈊(ᄏ) ㈋(ᄐ) ㈌(ᄑ) ㈍(ᄒ) ㈎(가) ㈏(나) ㈐(다) ㈑(라) ㈒(마) ㈓(바) ㈔(사) ㈕(아) ㈖(자) ㈗(차) ㈘(카)",
  "㈙(타) ㈚(파) ㈛(하) ㈜(주) ㈝(오전) ㈞(오후) ㈠(一) ㈡(二) ㈢(三) ㈣(四) ㈤(五) ㈥(六) ㈦(七) ㈧(八) ㈨(九) ㈩(十) ㈪(月)",
  "㈫(火) ㈬(水) ㈭(木) ㈮(金) ㈯(土) ㈰(日) ㈱(株) ㈲(有) ㈳(社) ㈴(名) ㈵(特) ㈶(財) ㈷(祝) ㈸(労) ㈹(代) ㈺(呼) ㈻(学) ㈼(監)",
  "㈽(企) ㈾(資) ㈿(協) ㉀(祭) ㉁(休) ㉂(自) ㉃(至) ㉄問 ㉅幼 ㉆文 ㉇箏 ㉐pte ㉑21 ㉒22 ㉓23 ㉔24 ㉕25 ㉖26 ㉗27 ㉘28 ㉙29",
  "㉚30 ㉛31 ㉜32 ㉝33 ㉞34 ㉟35 ㉠ᄀ ㉦ᄉ ㉮가 ㉯나 ㉰다 ㉱라 ㉲마 ㉳바 ㉴사 ㉵아 ㉶자 ㉷차 ㉸카 ㉹타 ㉺파 ㉻하 ㉼참고 ㉽주의 ㉾우 ㊀一 ㊁二",
  "㊂三 ㊃四 ㊄五 ㊅六 ㊆七 ㊇八 ㊈九 ㊉十 ㊊月 ㊋火 ㊌水 ㊍木 ㊎金 ㊏土 ㊐日 ㊑株 ㊒有 ㊓社 ㊔名 ㊕特 ㊖財 ㊗祝 ㊘労 ㊙秘 ㊚男 ㊛女 ㊜適 ㊝優 ㊞印 ㊟注",
  "㊠項 ㊡休 ㊢写 ㊣正 ㊤上 ㊥中 ㊦下 ㊧左 ㊨右 ㊩医 ㊪宗 ㊫学 ㊬監 ㊭企 ㊮資 ㊯協 ㊰夜 ㊱36 ㊲37 ㊳38 ㊴39 ㊵40 ㊶41 ㊷42 ㊸43 ㊹44 ㊺45",
  "㊻46 ㊼47 ㊽48 ㊾49 ㊿50 ㋀1月 ㋁2月 ㋂3月 ㋃4月 ㋄5月 ㋅6月 ㋆7月 ㋇8月 ㋈9月 ㋉10月 ㋊11月 ㋋12月 ㋌hg ㋍erg ㋎ev ㋏ltd",
  "㋐ア ㋑イ ㋒ウ ㋓エ ㋖キ ㋗ク ㋘ケ ㋙コ ㋚サ ㋛シ ㋜ス ㋝セ ㋞ソ ㋟タ ㋠チ ㋡ツ ㋢テ ㋣ト ㋪ヒ ㋫フ ㋬ヘ ㋭ホ ㋳ヤ ㋴ユ ㋿令和 ㌀アパート ㌁アルファ",
  "㌂アンペア ㌃アール ㌄イニング ㌅インチ ㌆ウォン ㌇エスクード ㌈エーカー ㌉オンス ㌊オーム ㌋カイリ ㌌カラット ㌍カロリー ㌎ガロン ㌏ガンマ ㌐ギガ ㌑ギニー",
  "㌒キュリー ㌓ギルダー ㌔キロ ㌕キログラム ㌖キロメートル ㌗キロワット ㌘グラム ㌙グラムトン ㌚クルゼイロ ㌛クローネ ㌜ケース ㌝コルナ ㌞コーポ ㌟サイクル ㌠サンチーム",
  "㌡シリング ㌢センチ ㌣セント ㌤ダース ㌥デシ ㌦ドル ㌧トン ㌨ナノ ㌩ノット ㌪ハイツ ㌫パーセント ㌬パーツ ㌭バーレル ㌮ピアストル ㌯ピクル ㌰ピコ ㌱ビル",
  "㌲ファラッド ㌳フィート ㌴ブッシェル ㌵フラン ㌶ヘクタール ㌷ペソ ㌸ペニヒ ㌹ヘルツ ㌺ペンス ㌻ページ ㌼ベータ ㌽ポイント ㌾ボルト ㌿ホン ㍀ポンド ㍁ホール ㍂ホーン",
  "㍃マイクロ ㍄マイル ㍅マッハ ㍆マルク ㍇マンション ㍈ミクロン ㍉ミリ ㍊ミリバール ㍋メガ ㍌メガトン ㍍メートル ㍎ヤード ㍏ヤール ㍐ユアン ㍑リットル ㍒リラ ㍓ルピー",
  "㍔ルーブル ㍕レム ㍖レントゲン ㍗ワット ㍘0点 ㍙1点 ㍚2点 ㍛3点 ㍜4点 ㍝5点 ㍞6点 ㍟7点 ㍠8点 ㍡9点 ㍢10点 ㍣11点 ㍤12点 ㍥13点 ㍦14点",
  "㍧15点 ㍨16点 ㍩17点 ㍪18点 ㍫19点 ㍬20点 ㍭21点 ㍮22点 ㍯23点 ㍰24点 ㍱hpa ㍲da ㍳au ㍴bar ㍵ov ㍶pc ㍷dm ㍸dm2 ㍹dm3",
  "㍺iu ㍻平成 ㍼昭和 ㍽大正 ㍾明治 ㍿株式会社 ㎀pa ㎁na ㎂μa ㎃ma ㎄ka ㎅kb ㎆mb ㎇gb ㎈cal ㎉kcal ㎊pf ㎋nf ㎌μf ㎍μg ㎎mg",
  "㎏kg ㎐hz ㎑khz ㎒mhz ㎓ghz ㎔thz ㎕μl ㎖ml ㎗dl ㎘kl ㎙fm ㎚nm ㎛μm ㎜mm ㎝cm ㎞km ㎟mm2 ㎠cm2 ㎡m2 ㎢km2",
  "㎣mm3 ㎤cm3 ㎥m3 ㎦km3 ㎧m∕s ㎨m∕s2 ㎩pa ㎪kpa ㎫mpa ㎬gpa ㎭rad ㎮rad∕s ㎯rad∕s2 ㎰ps ㎱ns ㎲μs ㎳ms ㎴pv",
  "㎵nv ㎶μv ㎷mv ㎸kv ㎹mv ㎺pw ㎻nw ㎼μw ㎽mw ㎾kw ㎿mw ㏀kω ㏁mω ㏃bq ㏄cc ㏅cd ㏆c∕kg ㏈db ㏉gy ㏊ha ㏋hp ㏌in",
  "㏍kk ㏎km ㏏kt ㏐lm ㏑ln ㏒log ㏓lx ㏔mb ㏕mil ㏖mol ㏗ph ㏙ppm ㏚pr ㏛sr ㏜sv ㏝wb ㏞v∕m ㏟a∕m ㏠1日 ㏡2日 ㏢3日",
  "㏣4日 ㏤5日 ㏥6日 ㏦7日 ㏧8日 ㏨9日 ㏩10日 ㏪11日 ㏫12日 ㏬13日 ㏭14日 ㏮15日 ㏯16日 ㏰17日 ㏱18日 ㏲19日 ㏳20日 ㏴21日 ㏵22日",
  "㏶23日 ㏷24日 ㏸25日 ㏹26日 ㏺27日 ㏻28日 ㏼29日 ㏽30日 ㏾31日 ㏿gal ꚜъ ꚝь ꝰꝯ Ᵹᵹ Ꞌꞌ Ɥɥ Ɦɦ Ɜɜ Ɡɡ Ɬɬ Ɪɪ Ʞʞ Ʇʇ",
  "Ʝʝ Ꭓꭓ Ꞔꞔ Ʂʂ Ᶎᶎ Ɤɤ Ƛƛ ꟱s ꟲc ꟳf ꟴq Ꟶꟶ ꟸħ ꟹœ ꭜꜧ ꭝꬷ ꭞɫ ꭟꭒ ꭩʍ ﬀff ﬁfi ﬂfl ﬃffi ﬄffl ﬅst ﬆst ﬓմն",
  "ﬔմե ﬕմի ﬖվն ﬗմխ יִיִ ײַײַ ﬠע ﬡא ﬧר ﬨת שׁשׁ שׂשׂ שּׁשּׁ שּׂשּׂ אַאַ אָאָ אּאּ בּבּ גּגּ דּדּ הּהּ וּוּ זּזּ",
  "טּטּ יּיּ ךּךּ כּכּ לּלּ מּמּ נּנּ סּסּ ףּףּ פּפּ צּצּ קּקּ רּרּ שּשּ תּתּ וֹוֹ בֿבֿ כֿכֿ פֿפֿ ﭏאל ﭐٱ ﭑٱ ﭒٻ",
  "ﭓٻ ﭔٻ ﭕٻ ﭖپ ﭗپ ﭘپ ﭙپ ﭚڀ ﭛڀ ﭜڀ ﭝڀ ﭞٺ ﭟٺ ﭠٺ ﭡٺ ﭢٿ ﭣٿ ﭤٿ ﭥٿ ﭦٹ ﭧٹ ﭨٹ ﭩٹ ﭪڤ ﭫڤ ﭬڤ ﭭڤ ﭮڦ ﭯڦ ﭰڦ",
  "ﭱڦ ﭲڄ ﭳڄ ﭴڄ ﭵڄ ﭶڃ ﭷڃ ﭸڃ ﭹڃ ﭺچ ﭻچ ﭼچ ﭽچ ﭾڇ ﭿڇ ﮀڇ ﮁڇ ﮂڍ ﮃڍ ﮄڌ ﮅڌ ﮆڎ ﮇڎ ﮈڈ ﮉڈ ﮊژ ﮋژ ﮌڑ ﮍڑ ﮎک",
  "ﮏک ﮐک ﮑک ﮒگ ﮓگ ﮔگ ﮕگ ﮖڳ ﮗڳ ﮘڳ ﮙڳ ﮚڱ ﮛڱ ﮜڱ ﮝڱ ﮞں ﮟں ﮠڻ ﮡڻ ﮢڻ ﮣڻ ﮤۀ ﮥۀ ﮦہ ﮧہ ﮨہ ﮩہ ﮪھ ﮫھ ﮬھ",
  "ﮭھ ﮮے ﮯے ﮰۓ ﮱۓ ﯓڭ ﯔڭ ﯕڭ ﯖڭ ﯗۇ ﯘۇ ﯙۆ ﯚۆ ﯛۈ ﯜۈ ﯝۇٴ ﯞۋ ﯟۋ ﯠۅ ﯡۅ ﯢۉ ﯣۉ ﯤې ﯥې ﯦې ﯧې ﯨى ﯩى ﯪئا",
  "ﯫئا ﯬئە ﯭئە ﯮئو ﯯئو ﯰئۇ ﯱئۇ ﯲئۆ ﯳئۆ ﯴئۈ ﯵئۈ ﯶئې ﯷئې ﯸئې ﯹئى ﯺئى ﯻئى ﯼی ﯽی ﯾی ﯿی ﰀئج ﰁئح",
  "ﰂئم ﰃئى ﰄئي ﰅبج ﰆبح ﰇبخ ﰈبم ﰉبى ﰊبي ﰋتج ﰌتح ﰍتخ ﰎتم ﰏتى ﰐتي ﰑثج ﰒثم ﰓثى ﰔثي ﰕجح ﰖجم ﰗحج",
  "ﰘحم ﰙخج ﰚخح ﰛخم ﰜسج ﰝسح ﰞسخ ﰟسم ﰠصح ﰡصم ﰢضج ﰣضح ﰤضخ ﰥضم ﰦطح ﰧطم ﰨظم ﰩعج ﰪعم ﰫغج ﰬغم ﰭفج",
  "ﰮفح ﰯفخ ﰰفم ﰱفى ﰲفي ﰳقح ﰴقم ﰵقى ﰶقي ﰷكا ﰸكج ﰹكح ﰺكخ ﰻكل ﰼكم ﰽكى ﰾكي ﰿلج ﱀلح ﱁلخ ﱂلم ﱃلى",
  "ﱄلي ﱅمج ﱆمح ﱇمخ ﱈمم ﱉمى ﱊمي ﱋنج ﱌنح ﱍنخ ﱎنم ﱏنى ﱐني ﱑهج ﱒهم ﱓهى ﱔهي ﱕيج ﱖيح ﱗيخ ﱘيم ﱙيى",
  "ﱚيي ﱛذٰ ﱜرٰ ﱝىٰ ﱤئر ﱥئز ﱦئم ﱧئن ﱨئى ﱩئي ﱪبر ﱫبز ﱬبم ﱭبن ﱮبى ﱯبي ﱰتر ﱱتز ﱲتم ﱳتن ﱴتى ﱵتي",
  "ﱶثر ﱷثز ﱸثم ﱹثن ﱺثى ﱻثي ﱼفى ﱽفي ﱾقى ﱿقي ﲀكا ﲁكل ﲂكم ﲃكى ﲄكي ﲅلم ﲆلى ﲇلي ﲈما ﲉمم ﲊنر ﲋنز",
  "ﲌنم ﲍنن ﲎنى ﲏني ﲐىٰ ﲑير ﲒيز ﲓيم ﲔين ﲕيى ﲖيي ﲗئج ﲘئح ﲙئخ ﲚئم ﲛئه ﲜبج ﲝبح ﲞبخ ﲟبم ﲠبه ﲡتج",
  "ﲢتح ﲣتخ ﲤتم ﲥته ﲦثم ﲧجح ﲨجم ﲩحج ﲪحم ﲫخج ﲬخم ﲭسج ﲮسح ﲯسخ ﲰسم ﲱصح ﲲصخ ﲳصم ﲴضج ﲵضح ﲶضخ ﲷضم",
  "ﲸطح ﲹظم ﲺعج ﲻعم ﲼغج ﲽغم ﲾفج ﲿفح ﳀفخ ﳁفم ﳂقح ﳃقم ﳄكج ﳅكح ﳆكخ ﳇكل ﳈكم ﳉلج ﳊلح ﳋلخ ﳌلم ﳍله",
  "ﳎمج ﳏمح ﳐمخ ﳑمم ﳒنج ﳓنح ﳔنخ ﳕنم ﳖنه ﳗهج ﳘهم ﳙهٰ ﳚيج ﳛيح ﳜيخ ﳝيم ﳞيه ﳟئم ﳠئه ﳡبم ﳢبه ﳣتم",
  "ﳤته ﳥثم ﳦثه ﳧسم ﳨسه ﳩشم ﳪشه ﳫكل ﳬكم ﳭلم ﳮنم ﳯنه ﳰيم ﳱيه ﳲـَّ ﳳـُّ ﳴـِّ ﳵطى ﳶطي ﳷعى ﳸعي ﳹغى",
  "ﳺغي ﳻسى ﳼسي ﳽشى ﳾشي ﳿحى ﴀحي ﴁجى ﴂجي ﴃخى ﴄخي ﴅصى ﴆصي ﴇضى ﴈضي ﴉشج ﴊشح ﴋشخ ﴌشم ﴍشر ﴎسر ﴏصر",
  "ﴐضر ﴑطى ﴒطي ﴓعى ﴔعي ﴕغى ﴖغي ﴗسى ﴘسي ﴙشى ﴚشي ﴛحى ﴜحي ﴝجى ﴞجي ﴟخى ﴠخي ﴡصى ﴢصي ﴣضى ﴤضي ﴥشج",
  "ﴦشح ﴧشخ ﴨشم ﴩشر ﴪسر ﴫصر ﴬضر ﴭشج ﴮشح ﴯشخ ﴰشم ﴱسه ﴲشه ﴳطم ﴴسج ﴵسح ﴶسخ ﴷشج ﴸشح ﴹشخ ﴺطم ﴻظم",
  "ﴼاً ﴽاً ﵐتجم ﵑتحج ﵒتحج ﵓتحم ﵔتخم ﵕتمج ﵖتمح ﵗتمخ ﵘجمح ﵙجمح ﵚحمي ﵛحمى ﵜسحج ﵝسجح ﵞسجى ﵟسمح",
  "ﵠسمح ﵡسمج ﵢسمم ﵣسمم ﵤصحح ﵥصحح ﵦصمم ﵧشحم ﵨشحم ﵩشجي ﵪشمخ ﵫشمخ ﵬشمم ﵭشمم ﵮضحى ﵯضخم ﵰضخم ﵱطمح",
  "ﵲطمح ﵳطمم ﵴطمي ﵵعجم ﵶعمم ﵷعمم ﵸعمى ﵹغمم ﵺغمي ﵻغمى ﵼفخم ﵽفخم ﵾقمح ﵿقمم ﶀلحم ﶁلحي ﶂلحى ﶃلجج",
  "ﶄلجج ﶅلخم ﶆلخم ﶇلمح ﶈلمح ﶉمحج ﶊمحم ﶋمحي ﶌمجح ﶍمجم ﶎمخج ﶏمخم ﶒمجخ ﶓهمج ﶔهمم ﶕنحم ﶖنحى ﶗنجم",
  "ﶘنجم ﶙنجى ﶚنمي ﶛنمى ﶜيمم ﶝيمم ﶞبخي ﶟتجي ﶠتجى ﶡتخي ﶢتخى ﶣتمي ﶤتمى ﶥجمي ﶦجحى ﶧجمى ﶨسخى ﶩصحي",
  "ﶪشحي ﶫضحي ﶬلجي ﶭلمي ﶮيحي ﶯيجي ﶰيمي ﶱممي ﶲقمي ﶳنحي ﶴقمح ﶵلحم ﶶعمي ﶷكمي ﶸنجح ﶹمخي ﶺلجم ﶻكمم",
  "ﶼلجم ﶽنجح ﶾجحي ﶿحجي ﷀمجي ﷁفمي ﷂبحي ﷃكمم ﷄعجم ﷅصمم ﷆسخي ﷇنجي ﷰصلے ﷱقلے ﷲالله ﷳاكبر ﷴمحمد",
  "ﷵصلعم ﷶرسول ﷷعليه ﷸوسلم ﷹصلى ﷼ریال ︑、 ︱— ︲– ﹑、 ﹘— ﹱـً ﹷـَ ﹹـُ ﹻـِ ﹽـّ ﹿـْ ﺊئ ﺋئ ﺌئ ﺍا ﺎا",
  "ﺏب ﺐب ﺑب ﺒب ﺓة ﺔة ﺕت ﺖت ﺗت ﺘت ﺙث ﺚث ﺛث ﺜث ﺝج ﺞج ﺟج ﺠج ﺡح ﺢح ﺣح ﺤح ﺥخ ﺦخ ﺧخ ﺨخ ﺩد ﺪد ﺫذ ﺬذ",
  "ﺭر ﺮر ﺯز ﺰز ﺱس ﺲس ﺳس ﺴس ﺵش ﺶش ﺷش ﺸش ﺹص ﺺص ﺻص ﺼص ﺽض ﺾض ﺿض ﻀض ﻁط ﻂط ﻃط ﻄط ﻅظ ﻆظ ﻇظ ﻈظ ﻉع ﻊع",
  "ﻋع ﻌع ﻍغ ﻎغ ﻏغ ﻐغ ﻑف ﻒف ﻓف ﻔف ﻕق ﻖق ﻗق ﻘق ﻙك ﻚك ﻛك ﻜك ﻝل ﻞل ﻟل ﻠل ﻡم ﻢم ﻣم ﻤم ﻥن ﻦن ﻧن ﻨن",
  "ﻩه ﻪه ﻫه ﻬه ﻭو ﻮو ﻯى ﻰى ﻱي ﻲي ﻳي ﻴي ﻵلآ ﻶلآ ﻷلأ ﻸلأ ﻹلإ ﻺلإ ﻻلا ﻼلا ､、 ･・ ｦヲ ｧァ ｨィ ｩゥ ｪェ",
  "ｫォ ｬャ ｭュ ｮョ ｯッ ｰー ｱア ｲイ ｳウ ｴエ ｷキ ｸク ｹケ ｺコ ｻサ ｼシ ｽス ｾセ ｿソ ﾀタ ﾁチ ﾂツ ﾃテ ﾄト ﾋヒ ﾌフ ﾍヘ ﾎホ ﾔヤ ﾕユ",
  "ﾜワ ﾝン ﾣᆪ ﾤᄂ ﾰᄚ ﾴᄡ ￢¬ ￤¦ ￥¥ ￦₩ ￨│ ￭■ ￮○ 𐞃æ 𐞄ʙ 𐞅ɓ 𐞇ʣ 𐞈ꭦ 𐞉ʥ 𐞊ʤ 𐞍ᶑ 𐞎ɘ 𐞏ɞ 𐞐ʩ 𐞑ɤ 𐞒ɢ 𐞓ɠ 𐞔ʛ 𐞕ħ 𐞖ʜ",
  "𐞗ɧ 𐞘ʄ 𐞛ɬ 𐞜𝼄 𐞝ꞎ 𐞞ɮ 𐞟𝼅 𐞠ʎ 𐞡𝼆 𐞢ø 𐞥q 𐞦ɺ 𐞧𝼈 𐞪ʀ 𐞫ʨ 𐞬ʦ 𐞭ꭧ 𐞮ʧ 𐞯ʈ 𐞰ⱱ 𐞲ʏ 𐞵ʘ 𐞹𝼊 𐞺𝼞 𝅗𝅥𝅗𝅥 𝅘𝅥𝅘𝅥 𝅘𝅥𝅮𝅘𝅥𝅮 𝅘𝅥𝅯𝅘𝅥𝅯",
  "𝅘𝅥𝅰𝅘𝅥𝅰 𝅘𝅥𝅱𝅘𝅥𝅱 𝅘𝅥𝅲𝅘𝅥𝅲 𝆹𝅥𝆹𝅥 𝆺𝅥𝆺𝅥 𝆹𝅥𝅮𝆹𝅥𝅮 𝆺𝅥𝅮𝆺𝅥𝅮 𝆹𝅥𝅯𝆹𝅥𝅯 𝆺𝅥𝅯𝆺𝅥𝅯 𝒜a 𝒢g 𝒻f 𝕆o 𝚤ı 𝚥ȷ 𝚹θ 𝛁∇ 𝛓σ 𝛛∂ 𝛜ε 𝛝θ 𝛞κ 𝛟φ 𝛠ρ 𝛡π",
  "𝛳θ 𝛻∇ 𝜍σ 𝜕∂ 𝜖ε 𝜗θ 𝜘κ 𝜙φ 𝜚ρ 𝜛π 𝜭θ 𝜵∇ 𝝇σ 𝝏∂ 𝝐ε 𝝑θ 𝝒κ 𝝓φ 𝝔ρ 𝝕π 𝝧θ 𝝯∇ 𝞁σ 𝞉∂ 𝞊ε 𝞋θ 𝞌κ 𝞍φ 𝞎ρ 𝞏π",
  "𝞡θ 𝞩∇ 𝞻σ 𝟃∂ 𝟄ε 𝟅θ 𝟆κ 𝟇φ 𝟈ρ 𝟉π 𝟊ϝ 𝟋ϝ 𞁇ы 𞁊ꚉ 𞁋ә 𞁌і 𞁍ј 𞁎ө 𞁏ү 𞁐ӏ 𞁞с 𞁧ґ 𞁨і 𞁩ѕ 𞁪џ 𞁫ҫ 𞁬ꙑ 𞁭ұ 𞸂ج 𞸃د",
  "𞸅و 𞸆ز 𞸇ح 𞸈ط 𞸉ي 𞸎س 𞸏ع 𞸐ف 𞸑ص 𞸒ق 𞸓ر 𞸔ش 𞸗خ 𞸘ذ 𞸙ض 𞸚ظ 𞸛غ 𞸜ٮ 𞸝ں 𞸞ڡ 𞸟ٯ 𞸡ب 𞸢ج 𞸤ه 𞸧ح 𞸩ي 𞸮س 𞸯ع 𞸰ف 𞸱ص",
  "𞸲ق 𞸴ش 𞸷خ 𞸹ض 𞸻غ 𞹂ج 𞹇ح 𞹉ي 𞹋ل 𞹍ن 𞹎س 𞹏ع 𞹑ص 𞹒ق 𞹔ش 𞹗خ 𞹙ض 𞹛غ 𞹝ں 𞹟ٯ 𞹡ب 𞹢ج 𞹤ه 𞹧ح 𞹨ط 𞹩ي 𞹪ك 𞹮س 𞹯ع 𞹰ف",
  "𞹱ص 𞹲ق 𞹴ش 𞹷خ 𞹹ض 𞹺ظ 𞹻غ 𞹼ٮ 𞹾ڡ 𞺂ج 𞺃د 𞺆ز 𞺇ح 𞺈ط 𞺉ي 𞺎س 𞺏ع 𞺐ف 𞺑ص 𞺒ق 𞺓ر 𞺔ش 𞺗خ 𞺘ذ 𞺙ض 𞺚ظ 𞺛غ 𞺡ب 𞺢ج 𞺣د",
  "𞺥و 𞺦ز 𞺧ح 𞺨ط 𞺩ي 𞺮س 𞺯ع 𞺰ف 𞺱ص 𞺲ق 𞺳ر 𞺴ش 𞺷خ 𞺸ذ 𞺹ض 𞺺ظ 𞺻غ 🄁0, 🄂1, 🄃2, 🄄3, 🄅4, 🄆5, 🄇6, 🄈7, 🄉8, 🄊9,",
  "🄐(a) 🄑(b) 🄒(c) 🄓(d) 🄔(e) 🄕(f) 🄖(g) 🄗(h) 🄘(i) 🄙(j) 🄚(k) 🄛(l) 🄜(m) 🄝(n) 🄞(o) 🄟(p) 🄠(q) 🄡(r)",
  "🄢(s) 🄣(t) 🄤(u) 🄥(v) 🄦(w) 🄧(x) 🄨(y) 🄩(z) 🄪〔s〕 🄫c 🄬r 🄭cd 🄮wz 🅊hv 🅋mv 🅌sd 🅍ss 🅎ppv 🅏wc 🅪mc",
  "🅫md 🅬mr 🆐dj 🈀ほか 🈁ココ 🈂サ 🈐手 🈑字 🈒双 🈓デ 🈔二 🈕多 🈖解 🈗天 🈘交 🈙映 🈚無 🈛料 🈜前 🈝後 🈞再 🈟新 🈠初 🈡終 🈢生 🈣販 🈤声 🈥吹",
  "🈦演 🈧投 🈨捕 🈩一 🈪三 🈫遊 🈬左 🈭中 🈮右 🈯指 🈰走 🈱打 🈲禁 🈳空 🈴合 🈵満 🈶有 🈷月 🈸申 🈹割 🈺営 🈻配 🉀〔本〕 🉁〔三〕 🉂〔二〕 🉃〔安〕 🉄〔点〕",
  "🉅〔打〕 🉆〔盗〕 🉇〔勝〕 🉈〔敗〕 🉐得 🉑可"]

def paired? (n : Nat) : Option (List Char) :=
  if pairedRanges.any fun (low, high) => low ≤ n && n ≤ high && (n - low) % 2 = 0 then
    some [Char.ofNat (n + 1)]
  else none

def shifted? (n : Nat) : Option (List Char) :=
  shiftedRuns.findSome? fun (low, count, target) =>
    if low ≤ n && n < low + count then some [Char.ofNat (target + (n - low))] else none

def ideograph? (n : Nat) : Option (List Char) :=
  ideographRuns.findSome? fun (low, text) =>
    if low ≤ n then (text.toList[n - low]?).map fun c => [c] else none

/-- What a character stands for, if not for itself. -/
def replacement? (c : Char) : Option (List Char) :=
  (paired? c.toNat).or ((shifted? c.toNat).or ((ideograph? c.toNat).or (textIn? replacements c)))

end PageAccessors.Url
